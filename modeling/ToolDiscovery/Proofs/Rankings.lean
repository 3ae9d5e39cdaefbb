import Mathlib.Data.List.Nodup
import Mathlib.Data.List.Perm.Subperm
import ToolDiscovery.Relevance.Ranking

/-!
# Rankings by score

If no two scores stand at the same position, their ranking is determined by what is ranked, in
whatever order it was found (`rank_eq`). Two lists whose scores differ can still have the same best
members: `best_eq_iff` says when they do, if no score of the first list is higher than the score at
the same position of the second one.
-/

namespace ToolDiscovery.Scored

variable {a b c s : Scored Float} {l m : List (Scored Float)} {n position : Nat} {score : Float}

/-- The place of the score among all scores. -/
def key (s : Scored Float) : Int := totalOrderKey s.score

theorem ranksBefore_iff :
    a.ranksBefore b ↔ b.key < a.key ∨ b.key = a.key ∧ a.position ≤ b.position := by
  unfold ranksBefore key Arithmetic.atLeast instArithmeticFloat
  simp only [Bool.and_eq_true, Bool.or_eq_true, Bool.not_eq_true', decide_eq_true_eq,
    decide_eq_false_iff_not]
  omega

theorem ranksBefore_total (a b : Scored Float) : a.ranksBefore b || b.ranksBefore a := by
  rw [Bool.or_eq_true, ranksBefore_iff, ranksBefore_iff]
  omega

theorem ranksBefore_trans (a b c : Scored Float) (hab : a.ranksBefore b) (hbc : b.ranksBefore c) :
    a.ranksBefore c := by
  rw [ranksBefore_iff] at hab hbc ⊢
  omega

theorem position_eq_of_ranksBefore (hab : a.ranksBefore b) (hba : b.ranksBefore a) :
    a.position = b.position := by
  rw [ranksBefore_iff] at hab hba
  omega

/-- A higher score at the same position only moves up. -/
theorem ranksBefore_of_key_le (h : a.ranksBefore c) (hposition : b.position = a.position)
    (hkey : a.key ≤ b.key) : b.ranksBefore c := by
  rw [ranksBefore_iff] at h ⊢
  omega

/-! ## Different positions -/

/-- No two scores stand at the same position. -/
def Distinct (l : List (Scored Float)) : Prop := (l.map (·.position)).Nodup

theorem Distinct.nodup (h : Distinct l) : l.Nodup := List.Nodup.of_map _ h

theorem Distinct.eq (h : Distinct l) (ha : a ∈ l) (hb : b ∈ l) (hab : a.position = b.position) :
    a = b :=
  List.inj_on_of_nodup_map h ha hb hab

theorem Distinct.sublist (h : Distinct m) (hsub : l.Sublist m) : Distinct l :=
  List.Nodup.sublist (hsub.map _) h

theorem Distinct.perm (h : Distinct m) (hperm : l.Perm m) : Distinct l :=
  (hperm.map _).nodup_iff.mpr h

/-! ## What a ranking is -/

theorem perm_rank {α : Type} [Arithmetic α] (l : List (Scored α)) : (rank l).Perm l :=
  List.mergeSort_perm l _

theorem pairwise_rank (l : List (Scored Float)) : (rank l).Pairwise (ranksBefore · ·) :=
  List.pairwise_mergeSort ranksBefore_trans ranksBefore_total l

/-- What is in order and has the same members is the ranking. -/
theorem rank_eq (h : Distinct l) (hsorted : m.Pairwise (ranksBefore · ·)) (hperm : l.Perm m) :
    rank l = m := by
  refine List.Perm.eq_of_pairwise ?_ (pairwise_rank l) hsorted ((perm_rank l).trans hperm)
  intro a b ha hb hab hba
  have hal : a ∈ l := (perm_rank l).mem_iff.mp ha
  have hbl : b ∈ l := hperm.mem_iff.mpr hb
  exact h.eq hal hbl (position_eq_of_ranksBefore hab hba)

theorem rank_congr (hl : Distinct l) (hm : Distinct m) (h : ∀ s, s ∈ l ↔ s ∈ m) :
    rank l = rank m := by
  have hperm : l.Perm m := (List.perm_ext_iff_of_nodup hl.nodup hm.nodup).mpr h
  exact rank_eq hl (pairwise_rank m) (hperm.trans (perm_rank m).symm)

theorem best_congr (hl : Distinct l) (hm : Distinct m) (h : ∀ s, s ∈ l ↔ s ∈ m) :
    best n l = best n m := by
  rw [best, best, rank_congr hl hm h]

/-! ## The best ones -/

theorem mem_of_mem_best (h : s ∈ best n l) : s ∈ l :=
  (perm_rank l).mem_iff.mp (List.mem_of_mem_take h)

/-- If there is room for all, all are among the best. -/
theorem perm_best_of_length_le {α : Type} [Arithmetic α] {l : List (Scored α)}
    (h : l.length ≤ n) : (best n l).Perm l := by
  have hlength : (rank l).length ≤ n := (perm_rank l).length_eq ▸ h
  rw [best, List.take_of_length_le hlength]
  exact perm_rank l

theorem distinct_best (h : Distinct l) : Distinct (best n l) :=
  (h.perm (perm_rank l)).sublist (List.take_sublist n _)

theorem pairwise_best : (best n l).Pairwise (ranksBefore · ·) :=
  (pairwise_rank l).sublist (List.take_sublist n _)

theorem length_best_le : (best n l).length ≤ n := List.length_take_le n _

theorem mem_best_of_length_le (h : l.length ≤ n) : s ∈ best n l ↔ s ∈ l :=
  (perm_best_of_length_le h).mem_iff

/-- What is not among the best ones stands behind all of them, and there is no room for it. -/
theorem not_mem_best (hb : b ∈ l) (hnot : b ∉ best n l) :
    (∀ a ∈ best n l, a.ranksBefore b) ∧ (best n l).length = n := by
  have hsplit : b ∈ (rank l).take n ++ (rank l).drop n := by
    rw [List.take_append_drop]
    exact (perm_rank l).mem_iff.mpr hb
  have hrest : b ∈ (rank l).drop n := (List.mem_append.mp hsplit).resolve_left hnot
  constructor
  · intro a ha
    have hsorted : ((rank l).take n ++ (rank l).drop n).Pairwise (ranksBefore · ·) := by
      rw [List.take_append_drop]
      exact pairwise_rank l
    exact (List.pairwise_append.mp hsorted).2.2 a ha b hrest
  · have hlength : 0 < ((rank l).drop n).length := List.length_pos_of_mem hrest
    rw [List.length_drop] at hlength
    rw [best, List.length_take]
    omega

/-- Fewer members than the limit stand before one of the best ones. -/
theorem length_lt_of_mem_best {before : List (Scored Float)} (h : Distinct l) (hs : s ∈ best n l)
    (hnodup : before.Nodup) (hbefore : ∀ t ∈ before, t ∈ l ∧ t.ranksBefore s ∧ t ≠ s) :
    before.length < n := by
  -- What stands before one of the best ones is one of them itself.
  have hsubset : s :: before ⊆ best n l := by
    intro t ht
    rcases List.mem_cons.mp ht with rfl | ht
    · exact hs
    · obtain ⟨hmem, hfirst, hne⟩ := hbefore t ht
      by_contra hnot
      have hback := (not_mem_best hmem hnot).1 s hs
      exact hne (h.eq hmem (mem_of_mem_best hs) (position_eq_of_ranksBefore hfirst hback))
  have hcons : (s :: before).Nodup :=
    List.nodup_cons.mpr ⟨fun hmem => (hbefore s hmem).2.2 rfl, hnodup⟩
  have hlength : (s :: before).length ≤ (best n l).length :=
    (List.subperm_of_subset hcons hsubset).length_le
  have hlimit := @length_best_le l n
  rw [List.length_cons] at hlength
  omega

/-- What belongs among the best ones of a list is among the best ones of another one, if everything
that stands before it there stands before it in the list too. -/
theorem mem_best_of_mem_best {side : List (Scored Float)} {window : Nat} (hside : Distinct side)
    (hl : Distinct l) (hs : s ∈ best n l) (ha : a ∈ side) (hposition : a.position = s.position)
    (f : Scored Float → Scored Float) (hf : ∀ t ∈ side, t.ranksBefore a →
      f t ∈ l ∧ (f t).position = t.position ∧ (f t).ranksBefore s) (hwindow : n ≤ window) :
    a ∈ best window side := by
  -- Otherwise the window is full, and all that is in it would stand before `s`.
  by_contra hnot
  obtain ⟨hbefore, hlength⟩ := not_mem_best ha hnot
  have hall (t : Scored Float) (ht : t ∈ best window side) :
      f t ∈ l ∧ (f t).position = t.position ∧ (f t).ranksBefore s :=
    hf t (mem_of_mem_best ht) (hbefore t ht)
  have hnodup : ((best window side).map f).Nodup := by
    have hpositions : ((best window side).map f).map (·.position) =
        (best window side).map (·.position) := by
      rw [List.map_map]
      exact List.map_congr_left fun t ht => (hall t ht).2.1
    refine List.Nodup.of_map (·.position) ?_
    rw [hpositions]
    exact distinct_best hside
  have hlt : ((best window side).map f).length < n := by
    refine length_lt_of_mem_best hl hs hnodup fun t ht => ?_
    obtain ⟨u, hu, rfl⟩ := List.mem_map.mp ht
    refine ⟨(hall u hu).1, (hall u hu).2.2, fun heq => hnot ?_⟩
    have hsame : u.position = a.position := by rw [hposition, ← heq, (hall u hu).2.1]
    exact hside.eq (mem_of_mem_best hu) ha hsame ▸ hu
  rw [List.length_map] at hlt
  omega

/-- Lower scores at the same positions have the same best members only if these do not differ: what
is among the best ones by the higher scores has to have the same score in the other list. Nothing
else can take its place. -/
theorem best_eq_iff (hl : Distinct l) (hm : Distinct m)
    (hlower : ∀ a ∈ l, ∃ b ∈ m, b.position = a.position ∧ a.key ≤ b.key) :
    best n l = best n m ↔ ∀ s ∈ best n m, s ∈ l := by
  constructor
  · intro h s hs
    rw [← h] at hs
    exact mem_of_mem_best hs
  · -- The first list is put in order as the best ones of the second one and the rest behind them.
    intro h
    let rest := l.filter fun a => a.position ∉ (best n m).map (·.position)
    have hrest {a : Scored Float} (ha : a ∈ rest) :
        a ∈ l ∧ ∃ b ∈ m, b ∉ best n m ∧ b.ranksBefore a := by
      obtain ⟨hal, hposition⟩ := List.mem_filter.mp ha
      obtain ⟨b, hb, hsame, hkey⟩ := hlower a hal
      refine ⟨hal, b, hb, fun hbest => ?_, ?_⟩
      · rw [decide_eq_true_eq, ← hsame] at hposition
        exact hposition (List.mem_map_of_mem hbest)
      · rw [ranksBefore_iff]
        omega
    have hmem (a : Scored Float) : a ∈ l ↔ a ∈ best n m ++ rank rest := by
      rw [List.mem_append, (perm_rank rest).mem_iff]
      constructor
      · intro ha
        by_cases hposition : a.position ∈ (best n m).map (·.position)
        · obtain ⟨b, hb, hsame⟩ := List.mem_map.mp hposition
          exact .inl (hl.eq (h b hb) ha hsame ▸ hb)
        · exact .inr (List.mem_filter.mpr ⟨ha, decide_eq_true hposition⟩)
      · rintro (ha | ha)
        · exact h a ha
        · exact (hrest ha).1
    have hsorted : (best n m ++ rank rest).Pairwise (ranksBefore · ·) := by
      refine List.pairwise_append.mpr ⟨pairwise_best, pairwise_rank rest, fun s hs a ha => ?_⟩
      obtain ⟨-, b, hb, hnot, hbefore⟩ := hrest ((perm_rank rest).mem_iff.mp ha)
      exact ranksBefore_trans s b a ((not_mem_best hb hnot).1 s hs) hbefore
    have hnodup : (best n m ++ rank rest).Nodup := by
      refine List.nodup_append.mpr ⟨(distinct_best hm).nodup, ?_, fun s hs a ha heq => ?_⟩
      · exact (perm_rank rest).nodup_iff.mpr (hl.nodup.filter _)
      · have hposition := (List.mem_filter.mp ((perm_rank rest).mem_iff.mp ha)).2
        rw [decide_eq_true_eq, ← heq] at hposition
        exact hposition (List.mem_map_of_mem hs)
    have hrank : rank l = best n m ++ rank rest :=
      rank_eq hl hsorted ((List.perm_ext_iff_of_nodup hl.nodup hnodup).mpr hmem)
    rw [best, hrank]
    cases hcases : rest with
    | nil =>
        have hnil : rank ([] : List (Scored Float)) = [] := List.mergeSort_nil
        rw [hnil, List.append_nil]
        exact List.take_of_length_le length_best_le
    | cons a others =>
        -- There is a rest only if the best ones are as many as there can be.
        obtain ⟨-, b, hb, hnot, -⟩ := hrest (hcases ▸ List.mem_cons_self)
        rw [List.take_append_of_le_length (Nat.le_of_eq (not_mem_best hb hnot).2.symm)]
        exact List.take_of_length_le length_best_le

/-! ## Strict order -/

/-- Whether the first one stands before the second one: it has a higher score, or the same score at
an earlier position. -/
def Precedes (a b : Scored Float) : Prop :=
  b.key < a.key ∨ b.key = a.key ∧ a.position < b.position

theorem ranksBefore.precedes (h : a.ranksBefore b) (hne : a.position ≠ b.position) :
    a.Precedes b := by
  rw [ranksBefore_iff] at h
  unfold Precedes
  omega

theorem Precedes.ranksBefore (h : a.Precedes b) : a.ranksBefore b := by
  rw [ranksBefore_iff]
  unfold Precedes at h
  omega

theorem Precedes.ne (h : a.Precedes b) : a ≠ b := by
  rintro rfl
  unfold Precedes at h
  omega

/-- In a ranking of different positions each one stands before all that follow. -/
theorem precedes_rank (h : Distinct l) : (rank l).Pairwise Precedes := by
  have hpositions : (rank l).Pairwise fun a b => a.position ≠ b.position :=
    List.pairwise_map.mp (h.perm (perm_rank l))
  exact (pairwise_rank l).imp₂ (fun _ _ => ranksBefore.precedes) hpositions

theorem precedes_best (h : Distinct l) : (best n l).Pairwise Precedes :=
  (precedes_rank h).sublist (List.take_sublist n _)

/-- What is left out of a ranking stands after all that is in it. -/
theorem precedes_of_not_mem_best (h : Distinct l) (hb : b ∈ l) (hnot : b ∉ best n l)
    (ha : a ∈ best n l) : a.Precedes b := by
  refine ranksBefore.precedes ((not_mem_best hb hnot).1 a ha) fun hsame => hnot ?_
  exact h.eq (mem_of_mem_best ha) hb hsame ▸ ha

theorem length_best (n : Nat) (l : List (Scored Float)) : (best n l).length = min n l.length := by
  rw [best, List.length_take, (perm_rank l).length_eq]

/-- Only one list has given members in strict order. -/
theorem eq_rank_of_precedes (h : Distinct l) (hmem : ∀ s, s ∈ m ↔ s ∈ l)
    (hsorted : m.Pairwise Precedes) : m = rank l := by
  have hnodup : m.Nodup := hsorted.imp Precedes.ne
  have hperm : l.Perm m := (List.perm_ext_iff_of_nodup h.nodup hnodup).mpr fun s => (hmem s).symm
  exact (rank_eq h (hsorted.imp Precedes.ranksBefore) hperm).symm

/-- Fewer of the best ones are the first of more of them. -/
theorem best_isPrefix {larger : Nat} (h : n ≤ larger) (l : List (Scored Float)) :
    best n l <+: best larger l := List.take_prefix_take_left h

/-! ## Scores at positions -/

/-- The score at a position of a ranking. -/
def at? (l : List (Scored Float)) (position : Nat) : Option Float :=
  (l.find? (·.position = position)).map (·.score)

theorem at?_eq_some (h : Distinct l) : at? l position = some score ↔ ⟨position, score⟩ ∈ l := by
  unfold at?
  constructor
  · intro hfound
    obtain ⟨s, hs, rfl⟩ := Option.map_eq_some_iff.mp hfound
    have hposition : s.position = position := by simpa using List.find?_some hs
    subst hposition
    exact List.mem_of_find?_eq_some hs
  · intro hmem
    cases hfound : l.find? (·.position = position) with
    | none => simpa using List.find?_eq_none.mp hfound _ hmem
    | some s =>
        have hposition : s.position = position := by simpa using List.find?_some hfound
        have hsame : s = ⟨position, score⟩ :=
          h.eq (List.mem_of_find?_eq_some hfound) hmem hposition
        rw [hsame]
        rfl

theorem at?_cons (s : Scored Float) (l : List (Scored Float)) (position : Nat) :
    at? (s :: l) position = if s.position = position then some s.score else at? l position := by
  unfold at?
  rw [List.find?_cons]
  by_cases h : s.position = position
  · simp [h]
  · simp [h]

theorem at?_map (f : Float → Float) (l : List (Scored Float)) (position : Nat) :
    at? (l.map fun s => { s with score := f s.score }) position = (at? l position).map f := by
  induction l with
  | nil => rfl
  | cons s rest ih =>
      rw [List.map_cons, at?_cons, at?_cons, ih]
      by_cases h : s.position = position
      · simp [h]
      · simp [h]

/-! ## Scores of the items of a list -/

section Items

variable {α ι : Type} {items : List ι}

/-- What is computed from items with different positions stands at different positions. -/
theorem distinct_filterMap {place : ι → Nat} {f : ι → Option (Scored α)}
    (hitems : (items.map place).Nodup) (hf : ∀ a s, f a = some s → s.position = place a) :
    ((items.filterMap f).map (·.position)).Nodup := by
  rw [List.Nodup, List.pairwise_map, List.pairwise_filterMap]
  refine (List.pairwise_map.mp hitems).imp fun hne s hs t ht => ?_
  rw [hf _ s hs, hf _ t ht]
  exact hne

/-- The items of a list that have a score, each at its position. -/
theorem mem_zipIdx_filterMap {f : ι → Option α} {s : Scored α} :
    s ∈ items.zipIdx.filterMap (fun (a, position) => (f a).map fun score => ⟨position, score⟩) ↔
      items[s.position]?.bind f = some s.score := by
  rw [List.mem_filterMap]
  constructor
  · rintro ⟨⟨a, position⟩, hitem, hs⟩
    obtain ⟨score, hscore, rfl⟩ := Option.map_eq_some_iff.mp hs
    rw [List.mem_zipIdx_iff_getElem?.mp hitem]
    exact hscore
  · intro h
    obtain ⟨a, hitem, hscore⟩ := Option.bind_eq_some_iff.mp h
    refine ⟨(a, s.position), List.mem_zipIdx_iff_getElem?.mpr hitem, ?_⟩
    show (f a).map (fun score => (⟨s.position, score⟩ : Scored α)) = some s
    rw [hscore]
    rfl

theorem distinct_zipIdx_filterMap (items : List ι) (f : ι → Option α) :
    ((items.zipIdx.filterMap fun (a, position) =>
      (f a).map fun score => (⟨position, score⟩ : Scored α)).map (·.position)).Nodup := by
  refine @distinct_filterMap _ _ _ Prod.snd _ ?_ fun item s hs => ?_
  · rw [List.zipIdx_map_snd]
    exact List.nodup_range'
  · obtain ⟨score, -, rfl⟩ := Option.map_eq_some_iff.mp hs
    rfl

end Items

end ToolDiscovery.Scored
