import Mathlib
import ToolDiscovery.Relevance.Arithmetic

/-!
# Sums of positive floating-point numbers

A positive floating-point number is `mantissa · 2 ^ exponent` times the smallest one, and its bits
are `exponent · 2 ^ 52 + mantissa`, so they order these numbers. A sum is rounded, but the number
that comes out is never below one that is at most the exact sum (`le_place_of_value_le`). Hence a
sum ranks at least as high as what it is the sum of: `le_add`.
-/

namespace ToolDiscovery.PositiveFloat

open Float.Model
open Float.Model.UnpackedFloat

/-- The bits of positive infinity. -/
def infinityBits : Nat := 2047 * 2 ^ 52

/-- The mantissa has 53 bits, or fewer if the exponent is the least one. -/
structure Canonical (exponent mantissa : Nat) : Prop where
  lt : mantissa < 2 ^ 53
  normal : exponent = 0 ∨ 2 ^ 52 ≤ mantissa

/-- A number in canonical form, with its place in the order of such numbers. Those places that
would come after infinity belong to numbers too large for a format of 64 bits. -/
inductive IsPlaced : UnpackedFloat → Nat → Prop where
  | intro {exponent mantissa : Nat} (h : Canonical exponent mantissa) (hpos : 0 < mantissa) :
      IsPlaced (.finite .positive mantissa ((exponent : Int) - 1074) hpos)
        (exponent * 2 ^ 52 + mantissa)

theorem isPlaced_finite {exponent mantissa place : Nat} {scale : Int}
    (h : Canonical exponent mantissa) (hpos : 0 < mantissa)
    (hscale : scale = (exponent : Int) - 1074) (hplace : exponent * 2 ^ 52 + mantissa = place) :
    IsPlaced (.finite .positive mantissa scale hpos) place := by
  subst hscale hplace
  exact .intro h hpos

/-! ## Bits -/

theorem toNat_append {n m : Nat} (x : BitVec n) (y : BitVec m) :
    (x ++ y).toNat = x.toNat * 2 ^ m + y.toNat := by
  rw [BitVec.toNat_append, ← Nat.shiftLeft_add_eq_or_of_lt y.isLt, Nat.shiftLeft_eq]

theorem packComponents_toNat (exponent : BitVec 11) (mantissa : BitVec 52) :
    (packComponents Format.binary64 .positive exponent mantissa).toNat =
      exponent.toNat * 2 ^ 52 + mantissa.toNat := by
  show ((0#1 ++ exponent) ++ mantissa).toNat = _
  rw [toNat_append, toNat_append, BitVec.toNat_ofNat, Nat.zero_mod, Nat.zero_mul, Nat.zero_add]

theorem log2_lt_iff {m n : Nat} (hm : 0 < m) : m.log2 < n ↔ m < 2 ^ n :=
  Nat.log2_lt (Nat.ne_of_gt hm)

/-- The bits of a number are its place, unless it is too large. -/
theorem IsPlaced.toBits {x : UnpackedFloat} {place : Nat} (h : IsPlaced x place) :
    (Float.Model.pack x).toBits.toNat = min place infinityBits := by
  obtain ⟨hcanonical, hpos⟩ := h
  rename_i exponent mantissa
  have hlt := hcanonical.lt
  have hnormal := hcanonical.normal
  have hbias : (((exponent : Int) - 1074) + (Format.binary64.exponentBias : Nat) +
      (52 : Nat)).toNat = exponent + 1 := by
    show (((exponent : Int) - 1074) + 1023 + 52).toNat = exponent + 1
    omega
  have hbits : mantissa.log2 + 1 = 53 ↔ 2 ^ 52 ≤ mantissa := by
    have hlow := log2_lt_iff (n := 52) hpos
    have hhigh := (log2_lt_iff (n := 53) hpos).mpr hlt
    omega
  show (UnpackedFloat.pack Format.binary64
    (.finite .positive mantissa ((exponent : Int) - 1074) hpos)).toNat = _
  unfold UnpackedFloat.pack infinityBits
  simp only [hbias]
  by_cases hlarge : 2 ^ 11 ≤ exponent + 1 + 1
  · rw [if_pos hlarge]
    show (packComponents Format.binary64 .positive (-1#11) 0).toNat = _
    rw [packComponents_toNat]
    simp
    omega
  · rw [if_neg hlarge]
    by_cases hfull : mantissa.log2 + 1 = Format.binary64.mantissaBits
    · rw [if_pos hfull, packComponents_toNat]
      have hge := hbits.mp hfull
      simp
      omega
    · rw [if_neg hfull, packComponents_toNat]
      have hless := mt hbits.mpr hfull
      simp
      omega

/-! ## Rounding -/

theorem mantissa_shiftRight (extended : ExtendedMantissa) (n : Nat) :
    (extended >>> n).mantissa = extended.mantissa / 2 ^ n := by
  show (n.repeat ExtendedMantissa.shiftRightOne extended).mantissa = _
  induction n with
  | zero => simp [Nat.repeat]
  | succ n ih =>
      show (n.repeat ExtendedMantissa.shiftRightOne extended).mantissa / 2 = _
      rw [ih, Nat.div_div_eq_div_mul, Nat.pow_succ]

/-- Rounding adds at most one to what is left of the mantissa. -/
theorem roundedMantissa_bounds (extended : ExtendedMantissa) :
    extended.mantissa ≤ extended.roundedMantissa ∧
      extended.roundedMantissa ≤ extended.mantissa + 1 := by
  obtain ⟨mantissa, roundBit, stickyBit⟩ := extended
  cases roundBit <;> cases stickyBit <;>
    simp only [ExtendedMantissa.roundedMantissa, ExtendedMantissa.accuracy,
      Accuracy.roundToNearestEven] <;> omega

/-- The exponent of a number after rounding, unless rounding carries. -/
def targetExponent (mantissa exponent : Nat) : Nat := mantissa.log2 + 1 + exponent - 53

theorem targetExponent_eq (mantissa exponent : Nat) :
    Format.binary64.targetExponent (totalExponent mantissa ((exponent : Int) - 1074)) =
      (targetExponent mantissa exponent : Int) - 1074 := by
  unfold Format.targetExponent totalExponent targetExponent
  have hmin : Format.binary64.minExponent = -1074 := by decide
  have hbits : (Format.binary64.mantissaBits : Int) = 53 := by decide
  rw [hmin, hbits]
  omega

theorem shiftToTargetExponent_eq (mantissa exponent : Nat) :
    let target := max exponent (targetExponent mantissa exponent)
    let shifted :=
      shiftToTargetExponent Format.binary64 mantissa ((exponent : Int) - 1074) .exact
    shifted.1.mantissa = mantissa / 2 ^ (target - exponent) ∧
      shifted.2 = (target : Int) - 1074 := by
  unfold shiftToTargetExponent shiftToExponent
  rw [targetExponent_eq]
  constructor
  · rw [mantissa_shiftRight]
    congr 2
    omega
  · show ((exponent : Int) - 1074) + ((_ : Int).toNat : Int) = _
    omega

theorem decreaseExponent_eq (mantissa exponent target : Nat) :
    decreaseExponent mantissa ((exponent : Int) - 1074) ((target : Int) - 1074) =
      (mantissa * 2 ^ (exponent - target), ((min exponent target : Nat) : Int) - 1074) := by
  have hshift : (((exponent : Int) - 1074) - ((target : Int) - 1074)).toNat =
      exponent - target := by
    omega
  unfold decreaseExponent
  rw [hshift]
  refine Prod.ext (Nat.shiftLeft_eq _ _) ?_
  show ((exponent : Int) - 1074) - ((exponent - target : Nat) : Int) = _
  omega

theorem log2_mul_two_pow {m : Nat} (hm : 0 < m) (n : Nat) : (m * 2 ^ n).log2 = m.log2 + n := by
  induction n with
  | zero => simp
  | succ n ih =>
      have hne : m * 2 ^ n ≠ 0 := Nat.ne_of_gt (Nat.mul_pos hm (Nat.two_pow_pos n))
      rw [Nat.pow_succ, ← Nat.mul_assoc, Nat.mul_comm, Nat.log2_two_mul hne, ih]
      rfl

/-- What is left of a mantissa when it is cut to 53 bits. -/
theorem quotient_bounds {m : Nat} (hm : 0 < m) :
    let quotient := m / 2 ^ (m.log2 + 1 - 53)
    0 < quotient ∧ quotient < 2 ^ 53 ∧ (m.log2 + 1 < 53 ∨ 2 ^ 52 ≤ quotient) := by
  intro quotient
  have hlow : 2 ^ m.log2 ≤ m := Nat.log2_self_le (Nat.ne_of_gt hm)
  have hhigh : m < 2 ^ (m.log2 + 1) := Nat.lt_log2_self
  by_cases hsmall : m.log2 + 1 < 53
  · have hquotient : quotient = m := by
      show m / 2 ^ (m.log2 + 1 - 53) = m
      rw [show m.log2 + 1 - 53 = 0 by omega, Nat.pow_zero, Nat.div_one]
    have hpow : 2 ^ (m.log2 + 1) ≤ 2 ^ 53 := Nat.pow_le_pow_right (by decide) (by omega)
    rw [hquotient]
    omega
  · have hge : 2 ^ 52 ≤ quotient := by
      rw [Nat.le_div_iff_mul_le (Nat.two_pow_pos _), ← Nat.pow_add,
        show 52 + (m.log2 + 1 - 53) = m.log2 by omega]
      exact hlow
    have hlt : quotient < 2 ^ 53 := by
      rw [Nat.div_lt_iff_lt_mul (Nat.two_pow_pos _), ← Nat.pow_add,
        show 53 + (m.log2 + 1 - 53) = m.log2 + 1 by omega]
      exact hhigh
    exact ⟨by omega, hlt, .inr hge⟩

/-- A rounded mantissa fits its exponent, or it is the power of two that comes next; then one more
shift makes it fit and keeps its place. -/
theorem exists_canonical_of_rounded {exponent rounded : Nat} (hpos : 0 < rounded)
    (hle : rounded ≤ 2 ^ 53) (hnormal : exponent = 0 ∨ 2 ^ 52 ≤ rounded) :
    ∃ final mantissa : Nat,
      let shifted := shiftToTargetExponent Format.binary64 rounded ((exponent : Int) - 1074) .exact
      shifted.1.mantissa = mantissa ∧ shifted.2 = (final : Int) - 1074 ∧
        Canonical final mantissa ∧ 0 < mantissa ∧
        final * 2 ^ 52 + mantissa = exponent * 2 ^ 52 + rounded := by
  obtain ⟨hmantissa, hexponent⟩ := shiftToTargetExponent_eq rounded exponent
  rcases Nat.lt_or_eq_of_le hle with hlt | heq
  · -- Nothing is shifted.
    have hlog : rounded.log2 < 53 := (log2_lt_iff hpos).mpr hlt
    have htarget : max exponent (targetExponent rounded exponent) = exponent := by
      unfold targetExponent
      omega
    rw [htarget] at hmantissa hexponent
    rw [Nat.sub_self, Nat.pow_zero, Nat.div_one] at hmantissa
    exact ⟨exponent, rounded, hmantissa, hexponent, ⟨hlt, hnormal⟩, hpos, rfl⟩
  · -- Rounding has carried into a new bit, which takes the exponent one further.
    have htarget : max exponent (targetExponent rounded exponent) = exponent + 1 := by
      unfold targetExponent
      rw [heq, Nat.log2_two_pow]
      omega
    rw [htarget] at hmantissa hexponent
    rw [show exponent + 1 - exponent = 1 by omega, heq] at hmantissa
    subst heq
    exact ⟨exponent + 1, 2 ^ 52, hmantissa, hexponent, ⟨by decide, .inr (Nat.le_refl _)⟩,
      by decide, by omega⟩

/-- Rounding a number whose exponent can only grow does not move it below the place of its mantissa
cut to 53 bits. -/
theorem roundWithAccuracy_isPlaced {mantissa exponent : Nat} (hpos : 0 < mantissa)
    (hexponent : exponent ≤ targetExponent mantissa exponent) :
    let target := targetExponent mantissa exponent
    ∃ place, IsPlaced (roundWithAccuracy Format.binary64 .positive mantissa
        ((exponent : Int) - 1074) .exact) place ∧
      target * 2 ^ 52 + mantissa / 2 ^ (target - exponent) ≤ place := by
  intro target
  have hmax : max exponent target = target := Nat.max_eq_right hexponent
  have hshift : target - exponent = mantissa.log2 + 1 - 53 := by
    have hdef : target = mantissa.log2 + 1 + exponent - 53 := rfl
    omega
  obtain ⟨hquotient, htarget⟩ := shiftToTargetExponent_eq mantissa exponent
  rw [hmax] at hquotient htarget
  obtain ⟨hlow, hhigh⟩ := roundedMantissa_bounds
    (shiftToTargetExponent Format.binary64 mantissa ((exponent : Int) - 1074) .exact).1
  rw [hquotient, hshift] at hlow hhigh
  obtain ⟨hquotientPos, hquotientLt, hnormal⟩ := quotient_bounds hpos
  have hdef : target = mantissa.log2 + 1 + exponent - 53 := rfl
  obtain ⟨final, kept, hkept, hfinal, hcanonical, hkeptPos, hplace⟩ :=
    exists_canonical_of_rounded (Nat.lt_of_lt_of_le hquotientPos hlow) (by omega)
      (show target = 0 ∨ 2 ^ 52 ≤ _ by omega)
  rw [← htarget] at hkept hfinal
  have hplaced : IsPlaced (roundWithAccuracy Format.binary64 .positive mantissa
      ((exponent : Int) - 1074) .exact) (final * 2 ^ 52 + kept) := by
    subst hkept
    unfold roundWithAccuracy
    simp only [dif_neg (Nat.ne_of_gt hkeptPos)]
    exact isPlaced_finite hcanonical hkeptPos hfinal rfl
  refine ⟨final * 2 ^ 52 + kept, hplaced, ?_⟩
  rw [hplace, hshift]
  omega

/-- Rounding does not move a number below the place of its mantissa cut to 53 bits. -/
theorem round_isPlaced {mantissa : Nat} (hpos : 0 < mantissa) (exponent : Nat) :
    let target := targetExponent mantissa exponent
    ∃ place, IsPlaced (UnpackedFloat.round Format.binary64 .positive mantissa
        ((exponent : Int) - 1074)) place ∧
      target * 2 ^ 52 + mantissa * 2 ^ exponent / 2 ^ target ≤ place := by
  intro target
  -- The mantissa is first extended so far that no bits are missing at the target.
  let lower := min exponent target
  let larger := mantissa * 2 ^ (exponent - target)
  have hlarger : 0 < larger := Nat.mul_pos hpos (Nat.two_pow_pos _)
  have hround : UnpackedFloat.round Format.binary64 .positive mantissa ((exponent : Int) - 1074) =
      roundWithAccuracy Format.binary64 .positive larger ((lower : Int) - 1074) .exact := by
    unfold UnpackedFloat.round
    rw [targetExponent_eq]
    show (let cut := decreaseExponent mantissa ((exponent : Int) - 1074) ((target : Int) - 1074)
      roundWithAccuracy Format.binary64 .positive cut.1 cut.2 .exact) = _
    rw [decreaseExponent_eq]
  have hsame : targetExponent larger lower = target := by
    unfold targetExponent
    rw [log2_mul_two_pow hpos]
    have hdef : target = mantissa.log2 + 1 + exponent - 53 := rfl
    omega
  have hlower : lower ≤ targetExponent larger lower := by
    rw [hsame]
    exact Nat.min_le_right exponent target
  obtain ⟨place, hplaced, hle⟩ := roundWithAccuracy_isPlaced hlarger hlower
  rw [hsame] at hle
  rw [hround]
  refine ⟨place, hplaced, ?_⟩
  have hquotient : mantissa * 2 ^ exponent / 2 ^ target = larger / 2 ^ (target - lower) := by
    rcases Nat.le_total target exponent with hle | hle
    · have hlower : target - lower = 0 := by omega
      have hpow : 2 ^ exponent = 2 ^ (exponent - target) * 2 ^ target := by
        rw [← Nat.pow_add, Nat.sub_add_cancel hle]
      rw [hlower, hpow, ← Nat.mul_assoc, Nat.mul_div_cancel _ (Nat.two_pow_pos target),
        Nat.pow_zero, Nat.div_one]
    · have hlower : target - lower = target - exponent := by omega
      have hlarger : larger = mantissa := by
        show mantissa * 2 ^ (exponent - target) = mantissa
        rw [Nat.sub_eq_zero_of_le hle, Nat.pow_zero, Nat.mul_one]
      have hpow : 2 ^ target = 2 ^ (target - exponent) * 2 ^ exponent := by
        rw [← Nat.pow_add, Nat.sub_add_cancel hle]
      rw [hlower, hlarger, hpow, Nat.mul_div_mul_right _ _ (Nat.two_pow_pos exponent)]
  rw [hquotient]
  exact hle

/-- A number in canonical form that is at most the value comes no later than the place to which the
value is cut. -/
theorem le_place_of_value_le {exponent mantissa value : Nat} (h : Canonical exponent mantissa)
    (hvalue : 0 < value) (hle : mantissa * 2 ^ exponent ≤ value) :
    let target := value.log2 + 1 - 53
    exponent * 2 ^ 52 + mantissa ≤ target * 2 ^ 52 + value / 2 ^ target := by
  intro target
  have hdef : target = value.log2 + 1 - 53 := rfl
  obtain ⟨hpos, hlt, hnormal⟩ := quotient_bounds hvalue
  have hmantissa := h.lt
  rcases Nat.lt_trichotomy exponent target with hbelow | hsame | habove
  · -- The next exponent begins where the mantissas of this one end.
    have hfull : 2 ^ 52 ≤ value / 2 ^ target := hnormal.resolve_left (by omega)
    have hstep : (exponent + 1) * 2 ^ 52 ≤ target * 2 ^ 52 := Nat.mul_le_mul_right _ hbelow
    omega
  · have hquotient : mantissa ≤ value / 2 ^ target := by
      rw [Nat.le_div_iff_mul_le (Nat.two_pow_pos target), ← hsame]
      exact hle
    omega
  · -- A greater exponent would make the number greater than the value.
    exfalso
    have hfull : 2 ^ 52 ≤ mantissa := h.normal.resolve_left (by omega)
    have hbound : value < 2 ^ 53 * 2 ^ target := by
      rw [← Nat.div_lt_iff_lt_mul (Nat.two_pow_pos target)]
      exact hlt
    have hlarge : 2 ^ 53 * 2 ^ target ≤ mantissa * 2 ^ exponent :=
      calc 2 ^ 53 * 2 ^ target = 2 ^ 52 * 2 ^ (target + 1) := by
            rw [← Nat.pow_add, ← Nat.pow_add]
            congr 1
            omega
        _ ≤ mantissa * 2 ^ exponent :=
            Nat.mul_le_mul hfull (Nat.pow_le_pow_right (by decide) habove)
    omega

theorem normalize_of_pos {m : Nat} (hm : 0 < m) (exponent : Int) :
    UnpackedFloat.normalize Format.binary64 (m : Int) exponent .positive =
      UnpackedFloat.round Format.binary64 .positive m exponent := by
  have hcompare : compare (m : Int) 0 = .gt := by
    rw [Int.compare_eq_gt]
    omega
  unfold UnpackedFloat.normalize
  rw [hcompare]
  rfl

/-- The sum of two numbers comes no earlier than either of them. -/
theorem add_isPlaced {x y : UnpackedFloat} {p q : Nat} (hx : IsPlaced x p) (hy : IsPlaced y q) :
    ∃ place, IsPlaced (UnpackedFloat.add Format.binary64 x y) place ∧ p ≤ place ∧ q ≤ place := by
  obtain ⟨hx, hxpos⟩ := hx
  obtain ⟨hy, hypos⟩ := hy
  rename_i k m l n
  let lower := min k l
  let sum := m * 2 ^ (k - lower) + n * 2 ^ (l - lower)
  have hsum : 0 < sum := Nat.add_pos_left (Nat.mul_pos hxpos (Nat.two_pow_pos _)) _
  have hadd : UnpackedFloat.add Format.binary64 (.finite .positive m ((k : Int) - 1074) hxpos)
      (.finite .positive n ((l : Int) - 1074) hypos) =
      UnpackedFloat.round Format.binary64 .positive sum ((lower : Int) - 1074) := by
    rw [← normalize_of_pos hsum]
    have hmin : min ((k : Int) - 1074) ((l : Int) - 1074) = (lower : Int) - 1074 := by omega
    have hunfold (smaller : Int) (h : min ((k : Int) - 1074) ((l : Int) - 1074) = smaller) :
        UnpackedFloat.add Format.binary64 (.finite .positive m ((k : Int) - 1074) hxpos)
          (.finite .positive n ((l : Int) - 1074) hypos) =
        UnpackedFloat.normalize Format.binary64
          (((decreaseExponent m ((k : Int) - 1074) smaller).1 : Int) +
            ((decreaseExponent n ((l : Int) - 1074) smaller).1 : Int)) smaller .positive := by
      subst h
      rfl
    rw [hunfold _ hmin, decreaseExponent_eq, decreaseExponent_eq]
    exact congrArg (UnpackedFloat.normalize Format.binary64 · _ .positive)
      (Int.natCast_add _ _).symm
  obtain ⟨place, hplaced, hle⟩ := round_isPlaced hsum lower
  have hvalue : sum * 2 ^ lower = m * 2 ^ k + n * 2 ^ l := by
    rw [Nat.add_mul, Nat.mul_assoc, Nat.mul_assoc, ← Nat.pow_add, ← Nat.pow_add,
      Nat.sub_add_cancel (Nat.min_le_left k l), Nat.sub_add_cancel (Nat.min_le_right k l)]
  have htarget : targetExponent sum lower = (sum * 2 ^ lower).log2 + 1 - 53 := by
    rw [log2_mul_two_pow hsum, targetExponent]
    omega
  have hpos : 0 < sum * 2 ^ lower := Nat.mul_pos hsum (Nat.two_pow_pos _)
  rw [hadd]
  refine ⟨place, hplaced, ?_, ?_⟩
  · refine Nat.le_trans (le_place_of_value_le hx hpos ?_) (htarget ▸ hle)
    rw [hvalue]
    exact Nat.le_add_right _ _
  · refine Nat.le_trans (le_place_of_value_le hy hpos ?_) (htarget ▸ hle)
    rw [hvalue]
    exact Nat.le_add_left _ _

/-! ## Taking bits apart -/

theorem unpackExponent_toNat (bits : BitVec Format.binary64.numBits) :
    (unpackExponent bits).toNat = bits.toNat / 2 ^ 52 % 2 ^ 11 := by
  simp [unpackExponent, Nat.shiftRight_eq_div_pow]

theorem unpackMantissa_toNat (bits : BitVec Format.binary64.numBits) :
    (unpackMantissa bits).toNat = bits.toNat % 2 ^ 52 := by
  simp [unpackMantissa]

theorem unpackSign_toNat (bits : BitVec Format.binary64.numBits) :
    (unpackSign bits).toNat = bits.toNat / 2 ^ 63 := by
  have hlt : bits.toNat < 2 ^ 64 := bits.isLt
  simp [unpackSign, Nat.shiftRight_eq_div_pow]
  omega

theorem ofBitVec_unpackSign (bits : BitVec Format.binary64.numBits) :
    Sign.ofBitVec (unpackSign bits) = if bits.toNat < 2 ^ 63 then .positive else .negative := by
  have hzero : unpackSign bits = 0#1 ↔ bits.toNat < 2 ^ 63 := by
    rw [← BitVec.toNat_inj, unpackSign_toNat, BitVec.toNat_ofNat]
    omega
  unfold Sign.ofBitVec
  simp only [hzero]

/-- The bits of a number between zero and infinity are its place. -/
theorem unpack_isPlaced {bits : BitVec Format.binary64.numBits} (hpos : 0 < bits.toNat)
    (hlt : bits.toNat < infinityBits) :
    IsPlaced (UnpackedFloat.unpack Format.binary64 bits) bits.toNat := by
  have hbound : bits.toNat < 2047 * 2 ^ 52 := hlt
  have hexponent := unpackExponent_toNat bits
  have hmantissa := unpackMantissa_toNat bits
  have hsign : Sign.ofBitVec (unpackSign bits) = .positive := by
    rw [ofBitVec_unpackSign, if_pos (by omega)]
  have hsplit := Nat.div_add_mod bits.toNat (2 ^ 52)
  have hfinite : unpackExponent bits ≠ -1#11 := by
    rw [ne_eq, ← BitVec.toNat_inj, hexponent]
    show ¬ _ = 2047
    omega
  have hscale : (Format.binary64.exponentBias : Int) + (52 : Nat) = 1075 := by decide
  unfold UnpackedFloat.unpack
  simp only [hsign, if_neg hfinite]
  by_cases hlow : unpackExponent bits = 0#11
  · -- A subnormal number: its bits are its mantissa.
    have hexponentZero : bits.toNat / 2 ^ 52 % 2 ^ 11 = 0 := by
      rw [← hexponent, hlow]
      rfl
    have hmantissaNe : unpackMantissa bits ≠ 0#52 := by
      rw [ne_eq, ← BitVec.toNat_inj, hmantissa]
      show ¬ _ = 0
      omega
    rw [if_pos hlow, dif_neg hmantissaNe]
    refine @isPlaced_finite 0 _ _ _ ⟨?_, .inl rfl⟩ _ ?_ ?_
    · omega
    · rw [hscale, hlow]
      simp
    · rw [Nat.zero_mul, Nat.zero_add, hmantissa]
      omega
  · -- A normal number: its mantissa has a leading bit that is not stored.
    have hexponentNe : bits.toNat / 2 ^ 52 % 2 ^ 11 ≠ 0 := by
      rw [← hexponent]
      exact fun h => hlow (BitVec.eq_of_toNat_eq h)
    have happend : (1#1 ++ unpackMantissa bits).toNat = 2 ^ 52 + bits.toNat % 2 ^ 52 := by
      rw [toNat_append, hmantissa]
      rfl
    rw [if_neg hlow]
    refine @isPlaced_finite (bits.toNat / 2 ^ 52 - 1) _ _ _ ⟨?_, .inr ?_⟩ _ ?_ ?_
    · omega
    · omega
    · rw [hscale, hexponent]
      omega
    · omega

theorem unpack_infinity {bits : BitVec Format.binary64.numBits} (h : bits.toNat = infinityBits) :
    UnpackedFloat.unpack Format.binary64 bits = .infinity .positive := by
  have hbits : bits = BitVec.ofNat 64 infinityBits := by
    apply BitVec.eq_of_toNat_eq
    rw [h]
    rfl
  rw [hbits]
  rfl

/-- What is greater than zero has bits from one up to those of infinity. -/
theorem bits_of_pos {bits : BitVec Format.binary64.numBits}
    (h : UnpackedFloat.lt (.zero .positive) (UnpackedFloat.unpack Format.binary64 bits)) :
    0 < bits.toNat ∧ bits.toNat ≤ infinityBits := by
  have hexponent := unpackExponent_toNat bits
  have hmantissa := unpackMantissa_toNat bits
  have hsplit := Nat.div_add_mod bits.toNat (2 ^ 52)
  have hsign := ofBitVec_unpackSign bits
  unfold UnpackedFloat.unpack at h
  by_cases hpositive : bits.toNat < 2 ^ 63
  · rw [if_pos hpositive] at hsign
    simp only [hsign] at h
    by_cases htop : unpackExponent bits = -1#11
    · rw [if_pos htop] at h
      by_cases hzero : unpackMantissa bits = 0#52
      · have hfull : bits.toNat / 2 ^ 52 % 2 ^ 11 = 2047 := by
          rw [← hexponent, htop]
          rfl
        have hnone : bits.toNat % 2 ^ 52 = 0 := by
          rw [← hmantissa, hzero]
          rfl
        unfold infinityBits
        omega
      · rw [if_neg hzero] at h
        cases h
    · have hnotTop : bits.toNat / 2 ^ 52 % 2 ^ 11 ≠ 2047 := by
        rw [← hexponent]
        exact fun heq => htop (BitVec.eq_of_toNat_eq heq)
      have hle : bits.toNat ≤ infinityBits := by
        unfold infinityBits
        omega
      refine ⟨Nat.pos_of_ne_zero fun hzero => ?_, hle⟩
      have hbits : bits = 0#64 := BitVec.eq_of_toNat_eq hzero
      subst hbits
      cases h
  · rw [if_neg hpositive] at hsign
    simp only [hsign] at h
    exfalso
    split at h
    · split at h <;> cases h
    · split at h
      · split at h <;> cases h
      · cases h

/-! ## Positive numbers -/

variable {x y : Float}

/-- A positive number is infinity, or it is placed by its bits. -/
theorem unpack_of_pos (h : 0.0 < x) :
    x.toModel.unpack = .infinity .positive ∧ x.toBits.toNat = infinityBits ∨
      IsPlaced x.toModel.unpack x.toBits.toNat ∧ x.toBits.toNat < infinityBits := by
  have hzero : (0.0 : Float).toModel.unpack = .zero .positive := by rfl
  have hlt : UnpackedFloat.lt (0.0 : Float).toModel.unpack x.toModel.unpack :=
    of_decide_eq_true h
  rw [hzero] at hlt
  obtain ⟨hpos, hle⟩ := bits_of_pos hlt
  rcases Nat.lt_or_eq_of_le hle with hbelow | htop
  · exact .inr ⟨unpack_isPlaced hpos hbelow, hbelow⟩
  · exact .inl ⟨unpack_infinity htop, htop⟩

/-- Taking a number apart and putting it together again changes nothing. -/
theorem ofModel_pack_unpack (x : Float) : Float.ofModel (.pack x.toModel.unpack) = x :=
  Float.ofBits_toBits x

theorem unpack_zero : (0.0 : Float).toModel.unpack = .zero .positive := rfl

theorem IsPlaced.zero_add {a : UnpackedFloat} {place : Nat} (h : IsPlaced a place) :
    UnpackedFloat.add Format.binary64 (.zero .positive) a = a := by
  cases h
  rfl

theorem IsPlaced.add_zero {a : UnpackedFloat} {place : Nat} (h : IsPlaced a place) :
    UnpackedFloat.add Format.binary64 a (.zero .positive) = a := by
  cases h
  rfl

theorem IsPlaced.infinity_add {a : UnpackedFloat} {place : Nat} (h : IsPlaced a place) :
    UnpackedFloat.add Format.binary64 (.infinity .positive) a = .infinity .positive := by
  cases h
  rfl

theorem IsPlaced.add_infinity {a : UnpackedFloat} {place : Nat} (h : IsPlaced a place) :
    UnpackedFloat.add Format.binary64 a (.infinity .positive) = .infinity .positive := by
  cases h
  rfl

/-- A sum that begins with zero is what is added. -/
theorem zero_add_of_pos (h : 0.0 < x) : 0.0 + x = x := by
  have hadd : UnpackedFloat.add Format.binary64 (.zero .positive) x.toModel.unpack =
      x.toModel.unpack := by
    rcases unpack_of_pos h with ⟨hunpack, -⟩ | ⟨hplaced, -⟩
    · rw [hunpack]
      rfl
    · exact hplaced.zero_add
  show Float.ofModel (.pack (UnpackedFloat.add Format.binary64 _ _)) = x
  rw [unpack_zero, hadd]
  exact ofModel_pack_unpack x

/-- Adding zero changes nothing. -/
theorem add_zero_of_pos (h : 0.0 < x) : x + 0.0 = x := by
  have hadd : UnpackedFloat.add Format.binary64 x.toModel.unpack (.zero .positive) =
      x.toModel.unpack := by
    rcases unpack_of_pos h with ⟨hunpack, -⟩ | ⟨hplaced, -⟩
    · rw [hunpack]
      rfl
    · exact hplaced.add_zero
  show Float.ofModel (.pack (UnpackedFloat.add Format.binary64 _ _)) = x
  rw [unpack_zero, hadd]
  exact ofModel_pack_unpack x

theorem toBits_add :
    (x + y).toBits.toNat = (Float.Model.pack
      (UnpackedFloat.add Format.binary64 x.toModel.unpack y.toModel.unpack)).toBits.toNat := rfl

theorem toBits_infinity :
    (Float.Model.pack (.infinity .positive)).toBits.toNat = infinityBits := rfl

/-- The bits of a sum are at least those of what it is the sum of. -/
theorem bits_add (hx : 0.0 < x) (hy : 0.0 < y) :
    x.toBits.toNat ≤ (x + y).toBits.toNat ∧ y.toBits.toNat ≤ (x + y).toBits.toNat ∧
      (x + y).toBits.toNat ≤ infinityBits := by
  rw [toBits_add]
  rcases unpack_of_pos hx with ⟨hxUnpack, hxBits⟩ | ⟨hxPlaced, hxLt⟩
  · rcases unpack_of_pos hy with ⟨hyUnpack, hyBits⟩ | ⟨hyPlaced, hyLt⟩
    · have hsum : UnpackedFloat.add Format.binary64 (.infinity .positive) (.infinity .positive) =
          .infinity .positive := rfl
      rw [hxUnpack, hyUnpack, hsum, toBits_infinity]
      omega
    · rw [hxUnpack, hyPlaced.infinity_add, toBits_infinity]
      omega
  · rcases unpack_of_pos hy with ⟨hyUnpack, hyBits⟩ | ⟨hyPlaced, hyLt⟩
    · rw [hyUnpack, hxPlaced.add_infinity, toBits_infinity]
      omega
    · obtain ⟨place, hplaced, hxle, hyle⟩ := add_isPlaced hxPlaced hyPlaced
      rw [hplaced.toBits]
      omega

theorem totalOrderKey_of_le (h : x.toBits.toNat ≤ infinityBits) :
    totalOrderKey x = x.toBits.toNat := by
  have hlt : x.toBits.toNat < Binary64.signBit := by
    unfold infinityBits at h
    unfold Binary64.signBit
    omega
  unfold totalOrderKey
  simp only [if_pos hlt]

theorem bits_le_infinityBits (h : 0.0 < x) : x.toBits.toNat ≤ infinityBits := by
  rcases unpack_of_pos h with ⟨-, hbits⟩ | ⟨-, hlt⟩
  · exact Nat.le_of_eq hbits
  · exact Nat.le_of_lt hlt

/-- A sum of positive numbers comes no earlier in the total order than what it is the sum of. -/
theorem le_add (hx : 0.0 < x) (hy : 0.0 < y) :
    totalOrderKey x ≤ totalOrderKey (x + y) ∧ totalOrderKey y ≤ totalOrderKey (x + y) := by
  obtain ⟨hxle, hyle, htop⟩ := bits_add hx hy
  rw [totalOrderKey_of_le (bits_le_infinityBits hx), totalOrderKey_of_le (bits_le_infinityBits hy),
    totalOrderKey_of_le htop]
  omega

end ToolDiscovery.PositiveFloat
