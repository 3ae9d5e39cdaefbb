import ToolDiscovery.Proofs.IndexSteps
import ToolDiscovery.Proofs.WordRankings

/-!
# Sums of scores in hybrid searches

What a hybrid search ranks is described without its tables. In either way a tool has a score or
none, the rankings are cut, and what the cuts leave is added: `search_hybrid_eq`. The sums of
complete scores are `fusedMatches`.
-/

namespace ToolDiscovery

namespace CatalogIndex

open Scored (Distinct at?)

/-- How well a document answers the words of a query, if it does so at all. -/
def documentScore? (corpus : Corpus) (query : String) (document : Document) : Option Float :=
  let score := Bm25.default.score corpus (Text.tokenize query) document
  if 0.0 < score then some score else none

/-- How well a tool answers the words of a query, if it does so at all. -/
def wordScore? (index : CatalogIndex) (query : String) (position : Nat) : Option Float :=
  index.corpus.documents[position]?.bind (documentScore? index.corpus query)

/-- How well a pattern matches a tool, if it does so at all. -/
def patternScore? (index : CatalogIndex) (pattern : Pattern.Expr) (position : Nat) : Option Float :=
  index.entries[position]?.bind (·.patternScore? pattern)

/-- The sum of two scores, one of which may be missing and is zero then. -/
def fusedScore? (byWords byPattern : Option Float) : Option Float :=
  match byWords, byPattern with
  | none, none => none
  | _, _ => some (byWords.getD 0.0 + patternWeight * byPattern.getD 0.0)

/-- The positions that have a score, with the sums of their scores. -/
def fuse (size : Nat) (byWords byPattern : Nat → Option Float) : List (Scored Float) :=
  (List.range size).filterMap fun position =>
    (fusedScore? (byWords position) (byPattern position)).map fun score => ⟨position, score⟩

/-- All tools that match in either way, with the sums of their complete scores. -/
def fusedMatches (index : CatalogIndex) (query : String) (pattern : Pattern.Expr) :
    List (Scored Float) :=
  fuse index.size (index.wordScore? query) (index.patternScore? pattern)

/-- The same, but in either way only the best scores count, as many as the window says. -/
def cutMatches (index : CatalogIndex) (query : String) (pattern : Pattern.Expr) (window : Nat) :
    List (Scored Float) :=
  fuse index.size (at? (index.rankWords query window)) (at? (index.rankPattern pattern window))

variable {index : CatalogIndex} {query : String} {pattern : Pattern.Expr} {s : Scored Float}
  {position limit window : Nat} {score : Float}

/-! ## The scores of a built index -/

theorem push_documents_size {entry : IndexEntry}
    (h : index.corpus.documents.size = index.size) :
    (index.push entry).corpus.documents.size = (index.push entry).size := by
  show (index.corpus.documents.push _).size = (index.entries.push entry).size
  rw [Array.size_push, Array.size_push, h]
  rfl

theorem pushAll_documents_size {tools : List ToolDefinition} {index : CatalogIndex}
    (h : index.corpus.documents.size = index.size) :
    (index.pushAll tools).corpus.documents.size = (index.pushAll tools).size := by
  induction tools generalizing index with
  | nil => exact h
  | cons tool rest ih => exact ih (push_documents_size h)

/-- Every tool of an index has its document. -/
theorem Built.documents_size (h : Built index) : index.corpus.documents.size = index.size := by
  induction h with
  | empty => rfl
  | add h hadd ih =>
      rw [((add_eq_ok h.current).mp hadd).2]
      exact pushAll_documents_size ih

theorem documentScore?_eq (corpus : Corpus) (query : String) :
    documentScore? corpus query = Bm25.default.score? corpus (Text.tokenize query) := by
  funext document
  unfold documentScore? Bm25.score?
  simp only [Bm25.isPositive_iff]

/-- The answers to a query are the tools that have a score for its words. -/
theorem mem_answers :
    s ∈ Bm25.default.answers index.corpus (Text.tokenize query) ↔
      index.wordScore? query s.position = some s.score := by
  rw [wordScore?, documentScore?_eq]
  exact Bm25.mem_answers

theorem mem_patternMatches :
    s ∈ index.patternMatches pattern ↔ index.patternScore? pattern s.position = some s.score := by
  rw [patternScore?, ← Array.getElem?_toList]
  exact Scored.mem_zipIdx_filterMap (f := (IndexEntry.patternScore? · pattern))

theorem distinct_patternMatches : Distinct (index.patternMatches pattern) :=
  Scored.distinct_zipIdx_filterMap _ (IndexEntry.patternScore? · pattern)

theorem distinct_rankWords : Distinct (index.rankWords query window) :=
  Scored.distinct_best Bm25.distinct_answers

theorem distinct_rankPattern : Distinct (index.rankPattern pattern window) :=
  Scored.distinct_best distinct_patternMatches

/-- A score for words that is left by the cut is the complete one. -/
theorem wordScore?_of_at? (h : at? (index.rankWords query window) position = some score) :
    index.wordScore? query position = some score :=
  mem_answers.mp (Scored.mem_of_mem_best ((Scored.at?_eq_some distinct_rankWords).mp h))

/-- A score of a pattern that is left by the cut is the complete one. -/
theorem patternScore?_of_at? (h : at? (index.rankPattern pattern window) position = some score) :
    index.patternScore? pattern position = some score :=
  mem_patternMatches.mp (Scored.mem_of_mem_best ((Scored.at?_eq_some distinct_rankPattern).mp h))

/-- A tool without a score for words has none after the cut. -/
theorem at?_rankWords_eq_none (h : index.wordScore? query position = none) :
    at? (index.rankWords query window) position = none := by
  rw [Option.eq_none_iff_forall_ne_some]
  intro score hat
  rw [wordScore?_of_at? hat] at h
  cases h

/-- A tool that the pattern does not match has no score after the cut. -/
theorem at?_rankPattern_eq_none (h : index.patternScore? pattern position = none) :
    at? (index.rankPattern pattern window) position = none := by
  rw [Option.eq_none_iff_forall_ne_some]
  intro score hat
  rw [patternScore?_of_at? hat] at h
  cases h

theorem wordScore?_pos (h : index.wordScore? query position = some score) : 0.0 < score := by
  obtain ⟨document, -, hscore⟩ := Option.bind_eq_some_iff.mp h
  rw [documentScore?_eq] at hscore
  exact Bm25.isPositive_iff.mp (Bm25.score?_eq_some.mp hscore).2

/-- A pattern occurs in a name or in another text. -/
theorem patternScore?_cases (h : index.patternScore? pattern position = some score) :
    score = IndexEntry.nameScore ∨ score = IndexEntry.textScore := by
  obtain ⟨entry, -, hscore⟩ := Option.bind_eq_some_iff.mp h
  unfold IndexEntry.patternScore? at hscore
  split at hscore
  · exact .inl (Option.some.inj hscore).symm
  · split at hscore
    · exact .inr (Option.some.inj hscore).symm
    · split at hscore
      · exact .inr (Option.some.inj hscore).symm
      · cases hscore

theorem weighted_pos (h : index.patternScore? pattern position = some score) :
    0.0 < patternWeight * score := by
  rcases patternScore?_cases h with rfl | rfl
  · decide +kernel
  · decide +kernel

theorem lt_size_of_wordScore? (hbuilt : Built index)
    (h : index.wordScore? query position = some score) : position < index.size := by
  obtain ⟨document, hdocument, -⟩ := Option.bind_eq_some_iff.mp h
  rw [← hbuilt.documents_size]
  exact (Array.getElem?_eq_some_iff.mp hdocument).1

theorem lt_size_of_patternScore? (h : index.patternScore? pattern position = some score) :
    position < index.size := by
  obtain ⟨entry, hentry, -⟩ := Option.bind_eq_some_iff.mp h
  exact (Array.getElem?_eq_some_iff.mp hentry).1

/-! ## Sums of scores -/

theorem mem_fuse {size : Nat} {byWords byPattern : Nat → Option Float} :
    s ∈ fuse size byWords byPattern ↔ s.position < size ∧
      fusedScore? (byWords s.position) (byPattern s.position) = some s.score := by
  unfold fuse
  rw [List.mem_filterMap]
  constructor
  · rintro ⟨position, hposition, hs⟩
    obtain ⟨score, hscore, rfl⟩ := Option.map_eq_some_iff.mp hs
    exact ⟨List.mem_range.mp hposition, hscore⟩
  · rintro ⟨hposition, hscore⟩
    exact ⟨s.position, List.mem_range.mpr hposition, by rw [hscore]; rfl⟩

theorem distinct_fuse (size : Nat) (byWords byPattern : Nat → Option Float) :
    Distinct (fuse size byWords byPattern) := by
  refine @Scored.distinct_filterMap _ _ _ id _ ?_ fun position s hs => ?_
  · rw [List.map_id]
    exact List.nodup_range
  · obtain ⟨score, -, rfl⟩ := Option.map_eq_some_iff.mp hs
    rfl

theorem fusedScore?_words (h : 0.0 < score) : fusedScore? (some score) none = some score := by
  show some (score + 0.0) = some score
  rw [PositiveFloat.add_zero_of_pos h]

theorem fusedScore?_pattern (h : 0.0 < patternWeight * score) :
    fusedScore? none (some score) = some (patternWeight * score) := by
  show some (0.0 + patternWeight * score) = _
  rw [PositiveFloat.zero_add_of_pos h]

/-- A sum without one of its scores is not higher than the complete sum. -/
theorem fusedScore?_le {byWords byPattern cutWords cutPattern : Option Float} {cut : Float}
    (hwords : ∀ score, cutWords = some score → byWords = some score)
    (hpattern : ∀ score, cutPattern = some score → byPattern = some score)
    (hwordsPos : ∀ score, byWords = some score → 0.0 < score)
    (hpatternPos : ∀ score, byPattern = some score → 0.0 < patternWeight * score)
    (h : fusedScore? cutWords cutPattern = some cut) :
    ∃ full, fusedScore? byWords byPattern = some full ∧ totalOrderKey cut ≤ totalOrderKey full := by
  cases cutWords with
  | none =>
      cases cutPattern with
      | none => cases h
      | some pattern =>
          have hpos := hpatternPos pattern (hpattern pattern rfl)
          rw [fusedScore?_pattern hpos] at h
          cases h
          rw [hpattern pattern rfl]
          cases byWords with
          | none => exact ⟨_, fusedScore?_pattern hpos, Int.le_refl _⟩
          | some words =>
              exact ⟨_, rfl, (PositiveFloat.le_add (hwordsPos words rfl) hpos).2⟩
  | some words =>
      have hpos := hwordsPos words (hwords words rfl)
      rw [hwords words rfl]
      cases cutPattern with
      | none =>
          rw [fusedScore?_words hpos] at h
          cases h
          cases byPattern with
          | none => exact ⟨_, fusedScore?_words hpos, Int.le_refl _⟩
          | some pattern =>
              exact ⟨_, rfl, (PositiveFloat.le_add hpos (hpatternPos pattern rfl)).1⟩
      | some pattern =>
          rw [hpattern pattern rfl]
          exact ⟨cut, h, Int.le_refl _⟩

/-- What adding the scores of a ranking does to the sum at a position. -/
theorem addScores_getElem? {sums : Std.TreeMap Nat Float} {l : List (Scored Float)}
    (h : Distinct l) (position : Nat) :
    (addScores sums l)[position]? =
      match at? l position with
      | none => sums[position]?
      | some score => some (sums[position]?.getD 0.0 + score) := by
  induction l generalizing sums with
  | nil => rfl
  | cons s rest ih =>
      have hrest : Distinct rest := h.sublist (List.sublist_cons_self s rest)
      show (addScores (sums.alter s.position fun sum => some (sum.getD 0.0 + s.score))
        rest)[position]? = _
      rw [ih hrest, Scored.at?_cons, Std.TreeMap.getElem?_alter]
      by_cases hsame : s.position = position
      · -- The position does not occur a second time.
        subst hsame
        have hnone : at? rest s.position = none := by
          cases hat : at? rest s.position with
          | none => rfl
          | some score =>
              have hmem := (Scored.at?_eq_some hrest).mp hat
              exact absurd (List.mem_map_of_mem hmem) (List.nodup_cons.mp h).1
        simp [hnone]
      · simp [hsame]

/-- The items of a table stand at different positions. -/
theorem distinct_items (sums : Std.TreeMap Nat Float) :
    Distinct (sums.toList.map fun item => ⟨item.1, item.2⟩) := by
  unfold Distinct
  rw [List.map_map, List.Nodup, List.pairwise_map]
  refine Std.TreeMap.distinct_keys_toList.imp fun hne heq => hne ?_
  exact Std.compare_eq_iff_eq.mpr heq

/-- Only tools have sums of scores. -/
theorem lt_size_of_fusedScore? (hbuilt : Built index)
    (h : fusedScore? (at? (index.rankWords query window) position)
      (at? (index.rankPattern pattern window) position) = some score) : position < index.size := by
  cases hwords : at? (index.rankWords query window) position with
  | some words => exact lt_size_of_wordScore? hbuilt (wordScore?_of_at? hwords)
  | none =>
      cases hpattern : at? (index.rankPattern pattern window) position with
      | some score => exact lt_size_of_patternScore? (patternScore?_of_at? hpattern)
      | none =>
          rw [hwords, hpattern] at h
          cases h

/-- The ranking of a hybrid search is that of what the cuts leave. -/
theorem rankHybrid_eq (hbuilt : Built index) :
    index.rankHybrid query pattern limit =
      Scored.best limit (index.cutMatches query pattern (2 * limit)) := by
  let byWords := index.rankWords query (2 * limit)
  let byPattern := index.rankPattern pattern (2 * limit)
  let weighted := byPattern.map fun s => { s with score := patternWeight * s.score }
  let sums := addScores (addScores ∅ byWords) weighted
  have hweighted : Distinct weighted := by
    unfold Distinct
    rw [List.map_map]
    exact distinct_rankPattern
  have hsums (position : Nat) :
      sums[position]? = fusedScore? (at? byWords position) (at? byPattern position) := by
    have hempty : (∅ : Std.TreeMap Nat Float)[position]? = none := Std.TreeMap.getElem?_emptyc
    rw [addScores_getElem? hweighted, addScores_getElem? distinct_rankWords, hempty,
      Scored.at?_map (patternWeight * ·)]
    cases hwords : at? byWords position with
    | none =>
        cases at? byPattern position with
        | none => rfl
        | some score => rfl
    | some words =>
        -- The table adds the score to a zero before it adds that of the pattern.
        have hpos : 0.0 < words := wordScore?_pos (wordScore?_of_at? hwords)
        have hzero : 0.0 + words = words := PositiveFloat.zero_add_of_pos hpos
        cases at? byPattern position with
        | none =>
            rw [fusedScore?_words hpos]
            exact congrArg some hzero
        | some score => exact congrArg (fun sum => some (sum + patternWeight * score)) hzero
  refine Scored.best_congr (distinct_items sums) (distinct_fuse _ _ _) fun s => ?_
  have hmem : s ∈ (sums.toList.map fun item => (⟨item.1, item.2⟩ : Scored Float)) ↔
      sums[s.position]? = some s.score := by
    rw [← Std.TreeMap.mem_toList_iff_getElem?_eq_some, List.mem_map]
    constructor
    · rintro ⟨⟨position, score⟩, hitem, rfl⟩
      exact hitem
    · intro hitem
      exact ⟨_, hitem, rfl⟩
  rw [cutMatches, mem_fuse]
  refine (hmem.trans (by rw [hsums])).trans (iff_and_self.mpr fun hscore => ?_)
  exact lt_size_of_fusedScore? hbuilt hscore

theorem compilePattern_of_le (h : query.length ≤ Pattern.maxLength) :
    compilePattern query = .ok (Pattern.Expr.compile query) := by
  unfold compilePattern
  rw [if_neg (Nat.not_lt.mpr h)]

theorem search_hybrid_eq (hbuilt : Built index) (hquery : query.length ≤ Pattern.maxLength)
    (limit : Nat) :
    index.search query .hybrid limit =
      .ok (index.hits (Scored.best limit
        (index.cutMatches query (Pattern.Expr.compile query) (2 * limit)))) := by
  rw [← rankHybrid_eq hbuilt]
  unfold search
  rw [compilePattern_of_le hquery]
  rfl

end CatalogIndex

end ToolDiscovery
