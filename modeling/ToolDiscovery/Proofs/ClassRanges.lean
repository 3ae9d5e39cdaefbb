import Mathlib.Data.List.Perm.Subperm
import ToolDiscovery.Pattern.Layout
import ToolDiscovery.Proofs.LiteralMatching

/-!
# The ranges of a character and its mates

Thresholds in ascending order describe a set of code points (`Threshold.inside`). Combining them
describes the combined set, and the ranges between them hold the code points of the set, each once.
So the class of a character and its mates has no more byte forms than there are mates:
`Pattern.length_forms_mateClass`.
-/

namespace ToolDiscovery.Pattern

namespace Threshold

variable {operation : Bool → Bool → Bool} {inA inB start : Bool} {as bs thresholds rest : List Nat}
  {n t : Nat}

/-- Whether a code point is in the set that thresholds describe, where `start` says whether the code
points before the first one are. -/
def inside (start : Bool) : List Nat → Nat → Bool
  | [], _ => start
  | t :: rest, n => if n < t then start else inside (!start) rest n

theorem inside_of_lt (h : ∀ t ∈ thresholds, n < t) : inside start thresholds n = start := by
  cases thresholds with
  | nil => rfl
  | cons t rest => exact if_pos (h t List.mem_cons_self)

/-- Thresholds in ascending order. -/
abbrev Ascending (thresholds : List Nat) : Prop := thresholds.Pairwise (· < ·)

theorem lt_of_mem_ascending {u : Nat} (h : Ascending (u :: rest)) (ht : t < u) :
    ∀ v ∈ u :: rest, t < v := by
  intro v hv
  rcases List.mem_cons.mp hv with rfl | hv
  · exact ht
  · exact Nat.lt_trans ht ((List.pairwise_cons.mp h).1 v hv)

/-- Before the first threshold, a set is what it starts as. -/
theorem inside_split (h : ∀ u ∈ thresholds, t ≤ u) (n : Nat) :
    inside start thresholds n = if n < t then start else inside start thresholds n := by
  by_cases hlt : n < t
  · rw [if_pos hlt, inside_of_lt fun u hu => Nat.lt_of_lt_of_le hlt (h u hu)]
  · rw [if_neg hlt]

/-- A threshold that is put before others says what is before it. -/
theorem inside_place {before after : Bool} (h : ∀ u ∈ rest, t < u) (n : Nat) :
    inside before (place t before after rest) n =
      if n < t then before else inside after rest n := by
  unfold place
  by_cases hsame : before = after
  · rw [if_pos hsame, hsame]
    exact inside_split (fun u hu => Nat.le_of_lt (h u hu)) n
  · have hafter : (!before) = after := Bool.not_eq.mpr hsame
    rw [if_neg hsame, inside, hafter]

theorem mem_place {before after : Bool} {u : Nat} (h : u ∈ place t before after rest) :
    u = t ∨ u ∈ rest := by
  unfold place at h
  split at h
  · exact .inr h
  · exact List.mem_cons.mp h

/-! ## Operations on sets -/

/-- Thresholds describe the set that an operation makes of two sets. -/
structure Combines (operation : Bool → Bool → Bool) (inA inB : Bool) (as bs thresholds : List Nat) :
    Prop where
  /-- They are in ascending order. -/
  ascending : Ascending thresholds
  /-- Nothing changes but where one of the sets does. -/
  mem : ∀ t ∈ thresholds, t ∈ as ∨ t ∈ bs
  /-- A code point is inside as the operation says. -/
  inside_eq : ∀ n, inside (operation inA inB) thresholds n =
    operation (inside inA as n) (inside inB bs n)

/-- One more threshold, up to which the two sets are what they start as. -/
theorem Combines.place {nextA nextB : Bool} {as' bs' : List Nat}
    (h : Combines operation nextA nextB as' bs' rest) (ht : t ∈ as ∨ t ∈ bs) (has : as' ⊆ as)
    (hbs : bs' ⊆ bs) (habove : ∀ u, u ∈ as' ∨ u ∈ bs' → t < u)
    (hA : ∀ n, inside inA as n = if n < t then inA else inside nextA as' n)
    (hB : ∀ n, inside inB bs n = if n < t then inB else inside nextB bs' n) :
    Combines operation inA inB as bs
      (place t (operation inA inB) (operation nextA nextB) rest) where
  ascending := by
    unfold Threshold.place
    split
    · exact h.ascending
    · exact List.pairwise_cons.mpr ⟨fun u hu => habove u (h.mem u hu), h.ascending⟩
  mem u hu := by
    rcases mem_place hu with rfl | hu
    · exact ht
    · exact (h.mem u hu).imp (has ·) (hbs ·)
  inside_eq n := by
    rw [inside_place fun u hu => habove u (h.mem u hu), hA, hB, h.inside_eq]
    split
    · rfl
    · rfl

theorem combine_spec (ha : Ascending as) (hb : Ascending bs) :
    Combines operation inA inB as bs (combine operation inA inB as bs) := by
  fun_induction combine operation inA inB as bs with
  | case1 inA inB =>
      exact ⟨List.Pairwise.nil, fun t ht => absurd ht List.not_mem_nil, fun n => rfl⟩
  | case2 inA inB a as ih =>
      obtain ⟨habove, ha⟩ := List.pairwise_cons.mp ha
      refine (ih ha hb).place (.inl List.mem_cons_self) (List.subset_cons_self a as)
        (List.Subset.refl _) (fun u hu => ?_) (fun n => rfl) (fun n => ?_)
      · exact hu.elim (habove u) fun hu => absurd hu List.not_mem_nil
      · exact inside_split (fun u hu => absurd hu List.not_mem_nil) n
  | case3 inA inB b bs ih =>
      obtain ⟨habove, hb⟩ := List.pairwise_cons.mp hb
      refine (ih ha hb).place (.inr List.mem_cons_self) (List.Subset.refl _)
        (List.subset_cons_self b bs) (fun u hu => ?_) (fun n => ?_) (fun n => rfl)
      · exact hu.elim (fun hu => absurd hu List.not_mem_nil) (habove u)
      · exact inside_split (fun u hu => absurd hu List.not_mem_nil) n
  | case4 inA inB a as b bs hlt ih =>
      obtain ⟨habove, ha⟩ := List.pairwise_cons.mp ha
      have hbs : ∀ u ∈ b :: bs, a < u := lt_of_mem_ascending hb hlt
      refine (ih ha hb).place (.inl List.mem_cons_self) (List.subset_cons_self a as)
        (List.Subset.refl _) (fun u hu => hu.elim (habove u) (hbs u)) (fun n => rfl) (fun n => ?_)
      exact inside_split (fun u hu => Nat.le_of_lt (hbs u hu)) n
  | case5 inA inB a as b bs _ hlt ih =>
      obtain ⟨habove, hb⟩ := List.pairwise_cons.mp hb
      have has : ∀ u ∈ a :: as, b < u := lt_of_mem_ascending ha hlt
      refine (ih ha hb).place (.inr List.mem_cons_self) (List.Subset.refl _)
        (List.subset_cons_self b bs) (fun u hu => hu.elim (has u) (habove u)) (fun n => ?_)
        (fun n => rfl)
      exact inside_split (fun u hu => Nat.le_of_lt (has u hu)) n
  | case6 inA inB a as b bs hab hba ih =>
      obtain rfl : a = b := Nat.le_antisymm (Nat.not_lt.mp hba) (Nat.not_lt.mp hab)
      obtain ⟨haboveA, ha⟩ := List.pairwise_cons.mp ha
      obtain ⟨haboveB, hb⟩ := List.pairwise_cons.mp hb
      exact (ih ha hb).place (.inl List.mem_cons_self) (List.subset_cons_self a as)
        (List.subset_cons_self a bs) (fun u hu => hu.elim (haboveA u) (haboveB u)) (fun n => rfl)
        (fun n => rfl)

/-! ## Sets of code points -/

theorem eraseReps_loop_spec {acc : List Nat} (hsorted : (n :: rest).Pairwise (· ≤ ·))
    (hacc : (n :: acc).Pairwise (· > ·)) :
    Ascending (List.eraseRepsBy.loop (· == ·) n rest acc) ∧
      List.eraseRepsBy.loop (· == ·) n rest acc ⊆ acc ++ n :: rest := by
  induction rest generalizing n acc with
  | nil =>
      refine ⟨List.pairwise_reverse.mpr hacc, fun m hm => ?_⟩
      rcases List.mem_cons.mp (List.mem_reverse.mp hm) with rfl | hm
      · simp
      · simp [hm]
  | cons m rest ih =>
      obtain ⟨hle, hrest⟩ := List.pairwise_cons.mp hsorted
      rw [List.eraseRepsBy.loop]
      by_cases hsame : n = m
      · subst hsame
        obtain ⟨hascending, hsubset⟩ := ih hrest hacc
        simp only [beq_self_eq_true]
        exact ⟨hascending, fun k hk => by simpa using hsubset hk⟩
      · have hlt : n < m := Nat.lt_of_le_of_ne (hle m List.mem_cons_self) hsame
        have hnext : (m :: n :: acc).Pairwise (· > ·) := by
          refine List.pairwise_cons.mpr ⟨fun k hk => ?_, hacc⟩
          rcases List.mem_cons.mp hk with rfl | hk
          · exact hlt
          · exact Nat.lt_trans ((List.pairwise_cons.mp hacc).1 k hk) hlt
        obtain ⟨hascending, hsubset⟩ := ih hrest hnext
        simp only [beq_eq_false_iff_ne.mpr hsame]
        refine ⟨hascending, fun k hk => ?_⟩
        have := hsubset hk
        simp only [List.mem_append, List.mem_cons] at this ⊢
        tauto

/-- What is left of a sorted list without repetitions is in ascending order. -/
theorem ascending_eraseReps {codes : List Nat} (h : codes.Pairwise (· ≤ ·)) :
    Ascending codes.eraseReps ∧ codes.eraseReps ⊆ codes := by
  cases codes with
  | nil => exact ⟨List.Pairwise.nil, List.Subset.refl _⟩
  | cons n rest => exact eraseReps_loop_spec h (List.pairwise_singleton _ n)

/-- A code point before the set is added to it, whether it is next to the set or not. -/
theorem precede_spec (h : Ascending rest) (habove : ∀ t ∈ rest, n + 1 ≤ t) :
    Ascending (precede (n, n) rest) ∧ (∀ t ∈ precede (n, n) rest, n ≤ t) ∧
      ∀ m, inside false (precede (n, n) rest) m ↔ m = n ∨ inside false rest m := by
  unfold precede
  by_cases hnext : rest.head? = some (n + 1)
  · obtain ⟨tail, rfl⟩ := List.head?_eq_some_iff.mp hnext
    obtain ⟨htail, hascending⟩ := List.pairwise_cons.mp h
    rw [if_pos hnext, List.tail_cons]
    refine ⟨List.pairwise_cons.mpr ⟨fun t ht => ?_, hascending⟩, fun t ht => ?_, fun m => ?_⟩
    · exact Nat.lt_trans (Nat.lt_succ_self n) (htail t ht)
    · rcases List.mem_cons.mp ht with rfl | ht
      · exact Nat.le_refl _
      · exact Nat.le_of_lt (Nat.lt_trans (Nat.lt_succ_self n) (htail t ht))
    · have hone : inside true tail n = true :=
        inside_of_lt fun t ht => Nat.lt_trans (Nat.lt_succ_self n) (htail t ht)
      rcases Nat.lt_trichotomy m n with hm | rfl | hm
      · simp [inside, hm, Nat.lt_succ_of_lt hm, Nat.ne_of_lt hm]
      · simp [inside, hone]
      · simp [inside, Nat.not_lt.mpr (Nat.le_of_lt hm), Nat.not_lt.mpr hm, Nat.ne_of_gt hm]
  · rw [if_neg hnext]
    have hfar : ∀ t ∈ rest, n + 1 < t := by
      cases rest with
      | nil => simp
      | cons first rest =>
          have hfirst : n + 1 ≠ first := fun heq => hnext (congrArg some heq.symm)
          exact lt_of_mem_ascending h
            (Nat.lt_of_le_of_ne (habove first List.mem_cons_self) hfirst)
    refine ⟨?_, fun t ht => ?_, fun m => ?_⟩
    · refine List.pairwise_cons.mpr ⟨fun t ht => ?_, List.pairwise_cons.mpr ⟨hfar, h⟩⟩
      rcases List.mem_cons.mp ht with rfl | ht
      · exact Nat.lt_succ_self n
      · exact habove t ht
    · simp only [List.mem_cons] at ht
      rcases ht with rfl | rfl | ht
      · exact Nat.le_refl _
      · exact Nat.le_succ n
      · exact Nat.le_of_lt (habove t ht)
    · rcases Nat.lt_trichotomy m n with hm | rfl | hm
      · have hbefore : inside false rest m = false :=
          inside_of_lt fun t ht => Nat.lt_trans hm (habove t ht)
        simp [inside, hm, hbefore, Nat.ne_of_lt hm]
      · simp [inside]
      · simp [inside, Nat.not_lt.mpr (Nat.le_of_lt hm), Nat.not_lt.mpr hm, Nat.ne_of_gt hm]

/-- Single code points in ascending order make the set of these code points. -/
theorem ofRanges_spec {codes : List Nat} (h : Ascending codes) :
    Ascending (ofRanges (codes.map fun n => (n, n))) ∧
      (∀ t ∈ ofRanges (codes.map fun n => (n, n)), ∃ n ∈ codes, n ≤ t) ∧
      ∀ n, inside false (ofRanges (codes.map fun n => (n, n))) n ↔ n ∈ codes := by
  induction codes with
  | nil =>
      refine ⟨List.Pairwise.nil, fun t ht => absurd ht List.not_mem_nil, fun n => ?_⟩
      simp [ofRanges, inside]
  | cons n rest ih =>
      obtain ⟨habove, hrest⟩ := List.pairwise_cons.mp h
      obtain ⟨hascending, hbound, hinside⟩ := ih hrest
      have hlater : ∀ t ∈ ofRanges (rest.map fun n => (n, n)), n + 1 ≤ t := by
        intro t ht
        obtain ⟨m, hm, hle⟩ := hbound t ht
        exact Nat.le_trans (habove m hm) hle
      rw [List.map_cons, show ofRanges ((n, n) :: rest.map fun n => (n, n)) =
        precede (n, n) (ofRanges (rest.map fun n => (n, n))) from rfl]
      obtain ⟨hprecede, hfirst, hmem⟩ := precede_spec hascending hlater
      refine ⟨hprecede, fun t ht => ⟨n, List.mem_cons_self, hfirst t ht⟩, fun m => ?_⟩
      rw [hmem, hinside, List.mem_cons]

theorem ofCodes_spec (codes : List Nat) :
    Ascending (ofCodes codes) ∧ ∀ n, inside false (ofCodes codes) n → n ∈ codes := by
  have hsorted : (codes.mergeSort (· ≤ ·)).Pairwise (· ≤ ·) := by
    have hpairwise := @List.pairwise_mergeSort _ (fun a b : Nat => decide (a ≤ b))
      (by simpa using fun a b c => Nat.le_trans) (by simpa using Nat.le_total) codes
    exact hpairwise.imp fun h => of_decide_eq_true h
  obtain ⟨hascending, hsubset⟩ := ascending_eraseReps hsorted
  obtain ⟨hranges, -, hmem⟩ := ofRanges_spec hascending
  refine ⟨hranges, fun n hn => ?_⟩
  exact (List.mergeSort_perm codes _).mem_iff.mp (hsubset ((hmem n).mp hn))

/-! ## Ranges -/

/-- The code points of ranges. -/
def codesOf (ranges : List (Nat × Nat)) : List Nat :=
  ranges.flatMap fun range => List.range' range.1 (range.2 + 1 - range.1)

theorem toRanges_spec (h : Ascending thresholds)
    (hvalid : ∀ n, inside false thresholds n → n ≤ 0x10FFFF) :
    (∀ range ∈ toRanges thresholds, range.1 ≤ range.2) ∧ Ascending (codesOf (toRanges thresholds)) ∧
      ∀ n ∈ codesOf (toRanges thresholds), inside false thresholds n := by
  fun_induction toRanges thresholds with
  | case1 => exact ⟨by simp, List.Pairwise.nil, by simp [codesOf]⟩
  | case2 first =>
      have hfirst : first ≤ 0x10FFFF := hvalid first (by simp [inside])
      refine ⟨by simpa using hfirst, ?_, fun n hn => ?_⟩
      · simpa [codesOf] using List.pairwise_lt_range'
      · simp only [codesOf, List.flatMap_singleton, List.mem_range'_1] at hn
        simp [inside, Nat.not_lt.mpr hn.1]
  | case3 first next rest ih =>
      obtain ⟨hfirst, hnext⟩ := List.pairwise_cons.mp h
      obtain ⟨habove, hrest⟩ := List.pairwise_cons.mp hnext
      have hlt : first < next := hfirst next List.mem_cons_self
      -- Behind the second threshold, the set is that of the others.
      have hbehind (n : Nat) (hn : inside false rest n) :
          next < n ∧ inside false (first :: next :: rest) n := by
        have hle : next < n := by
          by_contra hle
          rw [inside_of_lt fun t ht => Nat.lt_of_le_of_lt (Nat.not_lt.mp hle) (habove t ht)] at hn
          cases hn
        refine ⟨hle, ?_⟩
        have hlt' : ¬ n < first := by omega
        have hle' : ¬ n < next := by omega
        simp only [inside, if_neg hlt', if_neg hle', Bool.not_false, Bool.not_true]
        exact hn
      obtain ⟨hranges, hascending, hinside⟩ := ih hrest fun n hn => hvalid n (hbehind n hn).2
      refine ⟨List.forall_mem_cons.mpr ⟨Nat.le_sub_one_of_lt hlt, hranges⟩, ?_, fun n hn => ?_⟩
      · refine List.pairwise_append.mpr ⟨List.pairwise_lt_range', hascending, fun m hm n hn => ?_⟩
        have := List.mem_range'_1.mp hm
        have := (hbehind n (hinside n hn)).1
        omega
      · rcases List.mem_append.mp hn with hn | hn
        · have := List.mem_range'_1.mp hn
          have hlt' : ¬ n < first := by omega
          have hle' : n < next := by omega
          simp only [inside, if_neg hlt', if_pos hle', Bool.not_false]
        · exact (hbehind n (hinside n hn)).2

end Threshold

/-! ## The class of a character and its mates -/

open Threshold (Ascending codesOf inside)
open Text (foldChar mateCodes)

variable {c : Char} {n : Nat}

/-- The code points that are found for a character in the table of mates. -/
def familyCodes (c : Char) : List Nat :=
  (Text.caseFamilies.filter (·.any (CharClass.single c).contains)).flatten.map Char.toNat

/-- Whatever is found for a character folds to the same one. -/
theorem mem_mateCodes_of_mem_familyCodes (h : n ∈ familyCodes c) : n ∈ mateCodes c := by
  obtain ⟨d, hd, rfl⟩ := List.mem_map.mp h
  obtain ⟨family, hfound, hd⟩ := List.mem_flatten.mp hd
  obtain ⟨hfamily, hany⟩ := List.mem_filter.mp hfound
  obtain ⟨other, hother, hsingle⟩ := List.any_eq_true.mp hany
  obtain rfl := contains_single.mp hsingle
  obtain ⟨run, -, hrun⟩ := List.mem_flatMap.mp hfamily
  obtain ⟨m, -, rfl⟩ := List.mem_map.mp hrun
  rw [Text.toNat_mem_mateCodes, Text.mem_caseMates.mp hd, Text.mem_caseMates.mp hother]

theorem thresholds_mateClass (c : Char) : (mateClass c).thresholds =
    Threshold.union [c.toNat, c.toNat + 1] (Threshold.ofCodes (familyCodes c)) := by
  rw [mateClass, CharClass.thresholds, CharClass.single, CharClass.thresholds,
    if_pos (Nat.le_refl _)]
  rfl

/-- Only the code points of mates are in the set of the class. -/
theorem mem_mateCodes_of_inside (h : inside false (mateClass c).thresholds n) :
    n ∈ mateCodes c := by
  obtain ⟨hascending, hcodes⟩ := Threshold.ofCodes_spec (familyCodes c)
  have hsingle : Ascending [c.toNat, c.toNat + 1] := by simp
  have hcombines : Threshold.Combines (· || ·) false false _ _ _ :=
    Threshold.combine_spec hsingle hascending
  rw [thresholds_mateClass] at h
  have hinside := (hcombines.inside_eq n).symm.trans h
  rw [Bool.or_eq_true] at hinside
  rcases hinside with hone | hfamily
  · have hn : n = c.toNat := by
      by_contra hne
      simp only [inside, Bool.not_false, Bool.not_true] at hone
      split at hone
      · cases hone
      · split at hone
        · omega
        · cases hone
    rw [hn, Text.toNat_mem_mateCodes]
  · exact mem_mateCodes_of_mem_familyCodes (hcodes n hfamily)

theorem ascending_thresholds_mateClass (c : Char) : Ascending (mateClass c).thresholds := by
  rw [thresholds_mateClass]
  exact (Threshold.combine_spec (by simp) (Threshold.ofCodes_spec (familyCodes c)).1).ascending

/-- The ranges of the class hold at most one code point for each run of case folding, and one
more. -/
theorem codeRanges_mateClass (c : Char) :
    (∀ range ∈ (mateClass c).codeRanges, range.1 ≤ range.2) ∧
      (codesOf (mateClass c).codeRanges).length ≤ CaseRun.fold.length + 1 := by
  have hsurrogates : Ascending [0xD800, 0xE000] := by decide
  have hcombines : Threshold.Combines (· && !·) false false _ _ _ :=
    Threshold.combine_spec (ascending_thresholds_mateClass c) hsurrogates
  have hmates (n : Nat) (hn : inside false (Threshold.combine (· && !·) false false
      (mateClass c).thresholds [0xD800, 0xE000]) n) : n ∈ mateCodes c := by
    have hinside := (hcombines.inside_eq n).symm.trans hn
    rw [Bool.and_eq_true] at hinside
    exact mem_mateCodes_of_inside hinside.1
  have hvalid (n : Nat) (hn : n ∈ mateCodes c) : n ≤ 0x10FFFF := by
    have hchar := CaseRun.isMapping_fold.isValidChar_of_mem_cons_sources (foldChar c).valid hn
    unfold Nat.isValidChar at hchar
    omega
  obtain ⟨hranges, hascending, hinside⟩ :=
    Threshold.toRanges_spec hcombines.ascending fun n hn => hvalid n (hmates n hn)
  refine ⟨hranges, ?_⟩
  have hnodup : (codesOf (mateClass c).codeRanges).Nodup :=
    hascending.imp fun hlt => Nat.ne_of_lt hlt
  have hsubset : codesOf (mateClass c).codeRanges ⊆ mateCodes c :=
    fun n hn => hmates n (hinside n hn)
  have hsources : (CaseRun.sources CaseRun.fold (foldChar c).toNat).length ≤ CaseRun.fold.length :=
    List.length_filterMap_le _ _
  refine Nat.le_trans (List.subperm_of_subset hnodup hsubset).length_le ?_
  rw [mateCodes, List.length_cons]
  exact Nat.add_le_add_right hsources 1

/-! ## Byte forms -/

theorem length_utf8Forms {first last : Nat} (h : first ≤ last) :
    (Text.utf8Forms first last).length ≤ last + 1 - first := by
  fun_induction Text.utf8Forms first last with
  | case1 first last cut hcut hbounds ihfirst ihlast =>
      rw [List.length_append]
      have hfirst := ihfirst (Nat.le_sub_one_of_lt hbounds.1)
      have hlast := ihlast hbounds.2
      omega
  | case2 => exact Nat.zero_le _
  | case3 first last hnone =>
      rw [List.length_singleton]
      omega

/-- There are not more byte forms than code points. -/
theorem length_forms {ranges : List (Nat × Nat)} (h : ∀ range ∈ ranges, range.1 ≤ range.2) :
    (ranges.flatMap fun (first, last) => Text.utf8Forms first last).length ≤
      (codesOf ranges).length := by
  induction ranges with
  | nil => exact Nat.le_refl _
  | cons range rest ih =>
      obtain ⟨hrange, hrest⟩ := List.forall_mem_cons.mp h
      have hfirst := length_utf8Forms hrange
      have hlater := ih hrest
      rw [codesOf, List.flatMap_cons, List.flatMap_cons, List.length_append, List.length_append,
        List.length_range']
      exact Nat.add_le_add hfirst hlater

/-- There are not more ranges than code points. -/
theorem length_ranges {ranges : List (Nat × Nat)} (h : ∀ range ∈ ranges, range.1 ≤ range.2) :
    ranges.length ≤ (codesOf ranges).length := by
  induction ranges with
  | nil => exact Nat.le_refl _
  | cons range rest ih =>
      obtain ⟨hrange, hrest⟩ := List.forall_mem_cons.mp h
      have hlater := ih hrest
      rw [codesOf, List.flatMap_cons, List.length_append, List.length_range', List.length_cons]
      unfold codesOf at hlater
      omega

theorem length_forms_mateClass (c : Char) :
    ((mateClass c).codeRanges.flatMap fun (first, last) =>
      Text.utf8Forms first last).length ≤ CaseRun.fold.length + 1 := by
  obtain ⟨hranges, hlength⟩ := codeRanges_mateClass c
  exact Nat.le_trans (length_forms hranges) hlength

end ToolDiscovery.Pattern
