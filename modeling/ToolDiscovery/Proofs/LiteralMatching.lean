import ToolDiscovery.Pattern.Compiled
import ToolDiscovery.Proofs.CaseMappings

/-!
# What a literal matches

A set of positions is a number whose bits are the positions (`Pattern.testBit_positions`). The
expression for a text itself moves a position over every part of the other text that folds to the
same characters (`Pattern.testBit_advanceAll`), and so it occurs where such a part stands:
`Pattern.literal_occursIn`.
-/

namespace ToolDiscovery

/-! ## Mates -/

namespace CaseRun

/-- The runs that move letters into the basic Latin alphabet. -/
def inner : List CaseRun := [latin, ⟨0x17F, 0x17F, 1, -268⟩, ⟨0x212A, 0x212A, 1, -8383⟩]

/-- Basic Latin letters have sources in three runs only. -/
theorem sources_fold_of_lt {n : Nat} (hn : n < 128) : sources fold n = sources inner n := by
  have hinner : fold.filter (fun run => (run.image run.first).blt 128) = inner := by
    decide +kernel
  rw [← hinner, sources, sources, List.filterMap_filter]
  refine List.filterMap_congr fun run _ => ?_
  by_cases hreach : (run.image run.first).blt 128
  · rw [if_pos hreach]
  · rw [if_neg hreach]
    -- What the run moves, it moves behind the basic Latin characters.
    have hlow : 128 ≤ run.image run.first := by simpa using hreach
    refine if_neg ?_
    rw [Bool.and_eq_true, covers_iff, beq_iff_eq]
    rintro ⟨⟨hfirst, -⟩, himage⟩
    have hmoved : run.image run.first ≤ run.image ((n : Int) - run.shift).toNat :=
      image_mono hfirst
    unfold image at hlow hmoved
    omega

end CaseRun

namespace Text

open CaseRun (apply fold sources)

variable {c d : Char}

/-- The code points of the characters that fold to the same one as `c`. -/
def mateCodes (c : Char) : List Nat := (foldChar c).toNat :: sources fold (foldChar c).toNat

theorem toNat_mem_mateCodes : d.toNat ∈ mateCodes c ↔ foldChar d = foldChar c := by
  have hfixed : apply fold (foldChar c).toNat = (foldChar c).toNat := by
    rw [toNat_foldChar, CaseRun.isMapping_fold.apply_apply]
  rw [mateCodes, CaseRun.isMapping_fold.mem_cons_sources hfixed, ← toNat_foldChar, Char.toNat_inj]

theorem mem_map_mateCodes : d ∈ (mateCodes c).map Char.ofNat ↔ d.toNat ∈ mateCodes c := by
  rw [List.mem_map]
  constructor
  · rintro ⟨n, hn, rfl⟩
    rwa [toNat_ofNat (CaseRun.isMapping_fold.isValidChar_of_mem_cons_sources (foldChar c).valid hn)]
  · intro hd
    exact ⟨d.toNat, hd, Char.ofNat_toNat d⟩

/-- The mates of a character are all that fold to the same one. -/
theorem mem_caseMates : d ∈ caseMates c ↔ foldChar d = foldChar c := by
  rw [← toNat_mem_mateCodes, ← mem_map_mateCodes]
  by_cases hlatin : c.toNat < 128
  · have htable : ∀ n < 128, let folded := (foldChar (Char.ofNat n)).toNat
        let mates := (folded :: sources CaseRun.inner folded).map Char.ofNat
        folded < 128 ∧ caseMates (Char.ofNat n) ⊆ mates ∧ mates ⊆ caseMates (Char.ofNat n) := by
      decide +kernel
    obtain ⟨hfolded, hsound, hcomplete⟩ := htable c.toNat hlatin
    rw [Char.ofNat_toNat] at hfolded hsound hcomplete
    rw [mateCodes, CaseRun.sources_fold_of_lt hfolded]
    exact ⟨fun h => hsound h, fun h => hcomplete h⟩
  · unfold caseMates mateCodes
    rw [if_neg hlatin]

end Text

namespace Pattern

variable {text query before middle after : List Char} {set : CharSet} {i j positions : Nat}
  {c d : Char}

/-! ## Sets of positions -/

theorem testBit_double (positions : Nat) (b : Bool) :
    (2 * positions + b.toNat).testBit i = if i = 0 then b else positions.testBit (i - 1) := by
  have hlt : b.toNat < 2 := by
    cases b with
    | false => decide
    | true => decide
  cases i with
  | zero =>
      rw [if_pos rfl, Nat.testBit_zero, Nat.mul_add_mod, Nat.mod_eq_of_lt hlt]
      cases b with
      | false => rfl
      | true => rfl
  | succ i =>
      rw [if_neg (Nat.succ_ne_zero i), Nat.testBit_succ, Nat.mul_add_div (by decide),
        Nat.div_eq_of_lt hlt]
      rfl

/-- The bits of a number that is made of answers, the first one last. -/
theorem testBit_foldr {α : Type} (answer : α → Bool) (items : List α) (i : Nat) :
    (items.foldr (fun item bits => 2 * bits + (answer item).toNat) 0).testBit i =
      items[i]?.any answer := by
  induction items generalizing i with
  | nil => simp
  | cons item rest ih =>
      rw [List.foldr_cons, testBit_double, ih]
      cases i with
      | zero => rfl
      | succ i => rfl

theorem testBit_positions (set : CharSet) (text : List Char) (i : Nat) :
    (set.positions text).testBit i = text[i]?.any set.contains := by
  have hfoldr : set.positions text =
      text.foldr (fun c bits => 2 * bits + (set.contains c).toNat) 0 := by
    induction text with
    | nil => rfl
    | cons c rest ih => rw [CharSet.positions, ih, List.foldr_cons]
  rw [hfoldr, testBit_foldr]

theorem testBit_allPositions (text : List Char) (i : Nat) :
    (allPositions text).testBit i = decide (i ≤ text.length) := by
  rw [allPositions, Nat.one_shiftLeft, Nat.testBit_two_pow_sub_one]
  exact decide_eq_decide.mpr Nat.lt_succ_iff

/-- The answers for the first characters are those of the class. -/
theorem contains_eq (set : CharSet) (c : Char) : set.contains c = set.members.contains c := by
  unfold CharSet.contains
  by_cases h : c.toNat < 128
  · have hindex : (List.range 128)[c.toNat]? = some c.toNat := List.getElem?_range h
    rw [if_pos h, set.firstBits_eq, CharClass.firstBits, testBit_foldr, hindex]
    exact congrArg set.members.contains (Char.ofNat_toNat c)
  · rw [if_neg h]

/-! ## Literals -/

/-- The class of a character and its mates. -/
def mateClass (c : Char) : CharClass := .folded true (.single c)

/-- One character of a pattern, in upper or lower case. -/
def eitherCase (c : Char) : Expr := Parse.charsOf (mateClass c)

/-- The positions that are reached by moving over the characters of a text one after the other. -/
def advanceAll (text query : List Char) (positions : Nat) : Nat :=
  query.foldl (fun positions c => (eitherCase c).advance text positions) positions

theorem contains_single : (CharClass.single c).contains d ↔ d = c := by
  simp only [CharClass.single, CharClass.contains, Bool.and_eq_true, decide_eq_true_eq]
  rw [← Char.toNat_inj]
  omega

theorem contains_mateClass : (mateClass c).contains d ↔ Text.foldChar d = Text.foldChar c := by
  rw [mateClass, CharClass.contains, if_pos rfl, List.any_eq_true, eq_comm]
  simp only [contains_single, exists_eq_right, Text.mem_caseMates]

/-- A character of a pattern moves a position over a character that is the same up to case. -/
theorem testBit_eitherCase : ((eitherCase c).advance text positions).testBit j ↔
    ∃ i d, j = i + 1 ∧ positions.testBit i ∧ text[i]? = some d ∧
      Text.foldChar d = Text.foldChar c := by
  show ((positions &&& CharSet.positions _ text) <<< 1).testBit j ↔ _
  rw [Nat.testBit_shiftLeft, Nat.testBit_and, testBit_positions, Bool.and_eq_true,
    Bool.and_eq_true, decide_eq_true_eq, Option.any_eq_true]
  simp only [contains_eq, contains_mateClass]
  constructor
  · rintro ⟨hj, hposition, d, hd, hfold⟩
    exact ⟨j - 1, d, by omega, hposition, hd, hfold⟩
  · rintro ⟨i, d, rfl, hposition, hd, hfold⟩
    exact ⟨by omega, hposition, d, hd, hfold⟩

theorem advance_literal (text query : List Char) (positions : Nat) :
    (Expr.literal query).advance text positions = advanceAll text query positions := by
  induction query generalizing positions with
  | nil => rfl
  | cons c rest ih => exact ih _

/-- Moving over the characters of a text is moving over a part that is the same up to case. -/
theorem testBit_advanceAll (hpositions : ∀ i, positions.testBit i → i ≤ text.length) :
    (advanceAll text query positions).testBit j ↔ ∃ before middle after,
      text = before ++ middle ++ after ∧ positions.testBit before.length ∧
        middle.map Text.foldChar = query.map Text.foldChar ∧ j = (before ++ middle).length := by
  induction query generalizing positions with
  | nil =>
      simp only [advanceAll, List.foldl_nil, List.map_nil, List.map_eq_nil_iff]
      constructor
      · intro hj
        refine ⟨text.take j, [], text.drop j, by simp, ?_, rfl, ?_⟩
        · rwa [List.length_take_of_le (hpositions j hj)]
        · rw [List.append_nil, List.length_take_of_le (hpositions j hj)]
      · rintro ⟨before, _, after, -, hposition, rfl, rfl⟩
        rwa [List.append_nil]
  | cons c rest ih =>
      have hmoved (i : Nat) (hi : ((eitherCase c).advance text positions).testBit i) :
          i ≤ text.length := by
        obtain ⟨i, d, rfl, -, hd, -⟩ := testBit_eitherCase.mp hi
        exact (List.getElem?_eq_some_iff.mp hd).1
      rw [show advanceAll text (c :: rest) positions =
        advanceAll text rest ((eitherCase c).advance text positions) from rfl, ih hmoved]
      constructor
      · rintro ⟨before, middle, after, htext, hposition, hmiddle, rfl⟩
        obtain ⟨i, d, hi, hposition, hd, hfold⟩ := testBit_eitherCase.mp hposition
        -- The character before the rest is the last one of what stands before it.
        have hne : before ≠ [] := List.length_pos_iff.mp (hi ▸ Nat.succ_pos i)
        obtain rfl | ⟨front, last, rfl⟩ := List.eq_nil_or_concat' before
        · exact absurd rfl hne
        have hfront : front.length = i := by simpa using hi
        subst hfront
        have hlast : last = d := by simpa [htext] using hd
        subst hlast
        exact ⟨front, last :: middle, after, by simp [htext], hposition,
          by simp [hfold, hmiddle], by simp⟩
      · rintro ⟨before, middle, after, htext, hposition, hmiddle, rfl⟩
        rw [List.map_cons] at hmiddle
        obtain ⟨d, tail, rfl, hfold, htail⟩ := List.map_eq_cons_iff.mp hmiddle
        have hstep : ((eitherCase c).advance text positions).testBit (before ++ [d]).length :=
          testBit_eitherCase.mpr ⟨before.length, d, by simp, hposition, by simp [htext], hfold⟩
        exact ⟨before ++ [d], tail, after, by simp [htext], hstep, htail, by simp⟩

/-- A text itself occurs where a part of the other text is the same up to case. -/
theorem literal_occursIn : (Expr.literal query).occursIn text ↔ ∃ before middle after,
    text = before ++ middle ++ after ∧ middle.map Text.foldChar = query.map Text.foldChar := by
  have hall (i : Nat) (hi : (allPositions text).testBit i) : i ≤ text.length := by
    rwa [testBit_allPositions, decide_eq_true_eq] at hi
  rw [Expr.occursIn, bne_iff_ne, advance_literal]
  constructor
  · intro hne
    obtain ⟨j, hj⟩ := Nat.exists_testBit_of_ne_zero hne
    obtain ⟨before, middle, after, htext, -, hmiddle, -⟩ := (testBit_advanceAll hall).mp hj
    exact ⟨before, middle, after, htext, hmiddle⟩
  · rintro ⟨before, middle, after, htext, hmiddle⟩ hzero
    have hbefore : (allPositions text).testBit before.length := by
      rw [testBit_allPositions, decide_eq_true_eq, htext]
      simp
    have hbit := (testBit_advanceAll hall).mpr ⟨before, middle, after, htext, hbefore, hmiddle, rfl⟩
    rw [hzero, Nat.zero_testBit] at hbit
    cases hbit

end Pattern

end ToolDiscovery
