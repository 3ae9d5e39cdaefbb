import ToolDiscovery.Proofs.HybridFusion
import ToolDiscovery.Proofs.IndexBatches

/-!
# The rankings of hybrid searches

The candidates of a hybrid search are the best ones in either way, as many as its window says. They
are ranked by the sums of what the cuts leave, and the first ones are the hits. The cuts may leave
less of a sum, but they never leave too few candidates: `length_best_cutMatches`. All of this
together is `hybrid_ranking`.
-/

namespace ToolDiscovery

namespace CatalogIndex

open Scored (Distinct at?)

variable {index : CatalogIndex} {query : String} {pattern : Pattern.Expr} {s : Scored Float}
  {limit window : Nat}

/-- How many candidates a search takes in either way: twice its limit, but no more than the greatest
limit there is. -/
def candidateLimit (limit : Nat) : Nat := min (2 * limit) Json.maxInteger

/-- The sums of the scores of all candidates, by their positions. -/
def candidateSums (index : CatalogIndex) (query : String) (pattern : Pattern.Expr) (limit : Nat) :
    Std.TreeMap Nat Float :=
  addScores (addScores ∅ (index.rankWords query (2 * limit)))
    ((index.rankPattern pattern (2 * limit)).map fun s =>
      { s with score := patternWeight * s.score })

/-- How many tools match in either way. -/
def matchCount (index : CatalogIndex) (query : String) (pattern : Pattern.Expr) : Nat :=
  (List.range index.size).countP fun position =>
    (index.wordScore? query position).isSome || (index.patternScore? pattern position).isSome

/-! ## How many candidates there are -/

theorem fusedScore?_eq_some {byWords byPattern : Option Float} {score : Float} :
    fusedScore? byWords byPattern = some score ↔ (byWords.isSome ∨ byPattern.isSome) ∧
      score = byWords.getD 0.0 + patternWeight * byPattern.getD 0.0 := by
  have hsum (sum : Float) : some sum = some score ↔ score = sum := by
    rw [Option.some.injEq, eq_comm]
  cases byWords with
  | none =>
      cases byPattern with
      | none => simp [fusedScore?]
      | some pattern => exact (hsum _).trans (and_iff_right (.inr rfl)).symm
  | some words => exact (hsum _).trans (and_iff_right (.inl rfl)).symm

theorem isSome_fusedScore? (byWords byPattern : Option Float) :
    (fusedScore? byWords byPattern).isSome = (byWords.isSome || byPattern.isSome) := by
  cases byWords with
  | none =>
      cases byPattern with
      | none => rfl
      | some pattern => rfl
  | some words => rfl

theorem length_fuse (size : Nat) (byWords byPattern : Nat → Option Float) :
    (fuse size byWords byPattern).length = (List.range size).countP fun position =>
      (byWords position).isSome || (byPattern position).isSome := by
  rw [fuse, List.length_filterMap_eq_countP]
  refine List.countP_congr fun position _ => ?_
  rw [Option.isSome_map, isSome_fusedScore?]

/-- There are at least as many sums as there are scores in a list whose positions all have sums. -/
theorem length_le_length_fuse {size : Nat} {byWords byPattern : Nat → Option Float}
    {l : List (Scored Float)} (hl : Distinct l)
    (h : ∀ s ∈ l, s.position < size ∧
      (fusedScore? (byWords s.position) (byPattern s.position)).isSome) :
    l.length ≤ (fuse size byWords byPattern).length := by
  have hsubset : l.map (·.position) ⊆ (fuse size byWords byPattern).map (·.position) := by
    intro position hposition
    obtain ⟨s, hs, rfl⟩ := List.mem_map.mp hposition
    obtain ⟨hlt, hsome⟩ := h s hs
    obtain ⟨score, hscore⟩ := Option.isSome_iff_exists.mp hsome
    exact List.mem_map.mpr ⟨⟨s.position, score⟩, mem_fuse.mpr ⟨hlt, hscore⟩, rfl⟩
  have hle := (List.subperm_of_subset hl hsubset).length_le
  rw [List.length_map, List.length_map] at hle
  exact hle

/-- The candidates of one side alone are no more than all candidates. -/
theorem length_rankWords_le (hbuilt : Built index) :
    (index.rankWords query window).length ≤ (index.cutMatches query pattern window).length := by
  refine length_le_length_fuse distinct_rankWords fun s hs => ?_
  have hat : at? (index.rankWords query window) s.position = some s.score :=
    (Scored.at?_eq_some distinct_rankWords).mpr hs
  refine ⟨lt_size_of_wordScore? hbuilt (wordScore?_of_at? hat), ?_⟩
  rw [isSome_fusedScore?, hat]
  rfl

theorem length_rankPattern_le :
    (index.rankPattern pattern window).length ≤ (index.cutMatches query pattern window).length := by
  refine length_le_length_fuse distinct_rankPattern fun s hs => ?_
  have hat : at? (index.rankPattern pattern window) s.position = some s.score :=
    (Scored.at?_eq_some distinct_rankPattern).mpr hs
  refine ⟨lt_size_of_patternScore? (patternScore?_of_at? hat), ?_⟩
  rw [isSome_fusedScore?, hat]
  exact Bool.or_true _

/-- Every candidate matches. -/
theorem length_cutMatches_le :
    (index.cutMatches query pattern window).length ≤ index.matchCount query pattern := by
  rw [matchCount, ← length_fuse]
  refine length_le_length_fuse (distinct_fuse _ _ _) fun s hs => ?_
  obtain ⟨hlt, hscore⟩ := mem_fuse.mp hs
  obtain ⟨hmem, -⟩ := complete_of_part hlt (fun _ => wordScore?_of_at?)
    (fun _ => patternScore?_of_at?) hscore
  exact ⟨hlt, Option.isSome_iff_exists.mpr ⟨_, (mem_fuse.mp hmem).2⟩⟩

/-- The cuts never cost a hit: where a side is cut, its window alone holds enough candidates. -/
theorem length_best_cutMatches (hbuilt : Built index) (h : limit ≤ window) :
    (Scored.best limit (index.cutMatches query pattern window)).length =
      min limit (index.matchCount query pattern) := by
  rw [Scored.length_best]
  have hwords := @length_rankWords_le index query pattern window hbuilt
  have hpattern := @length_rankPattern_le index query pattern window
  have hall := @length_cutMatches_le index query pattern window
  rw [rankWords, Bm25.search, Scored.length_best] at hwords
  rw [rankPattern, Scored.length_best] at hpattern
  by_cases hroom : (Bm25.default.answers index.corpus (Text.tokenize query)).length ≤ window ∧
      (index.patternMatches pattern).length ≤ window
  · rw [cutMatches_eq hroom.1 hroom.2, fusedMatches, length_fuse]
    rfl
  · omega

/-! ## Windows without end -/

theorem length_answers_le (hbuilt : Built index) :
    (Bm25.default.answers index.corpus (Text.tokenize query)).length ≤ maxTools := by
  refine Nat.le_trans Bm25.length_answers_le ?_
  rw [Corpus.size, hbuilt.documents_size]
  exact hbuilt.size_le

theorem length_patternMatches_le (hbuilt : Built index) :
    (index.patternMatches pattern).length ≤ maxTools := by
  refine Nat.le_trans (List.length_filterMap_le _ _) ?_
  rw [List.length_zipIdx, Array.length_toList]
  exact hbuilt.size_le

/-- It makes no difference that doubling stops at the greatest limit: that many tools there are
not. -/
theorem cutMatches_candidateLimit (hbuilt : Built index) :
    index.cutMatches query pattern (candidateLimit limit) =
      index.cutMatches query pattern (2 * limit) := by
  have hmax : maxTools ≤ Json.maxInteger := by decide
  have hwords := @length_answers_le index query hbuilt
  have hpattern := @length_patternMatches_le index pattern hbuilt
  by_cases hle : 2 * limit ≤ Json.maxInteger
  · rw [candidateLimit, Nat.min_eq_left hle]
  · have hlt : Json.maxInteger < 2 * limit := Nat.lt_of_not_le hle
    rw [candidateLimit, Nat.min_eq_right (Nat.le_of_lt hlt), cutMatches_eq (by omega) (by omega),
      cutMatches_eq (by omega) (by omega)]

/-! ## All together -/

/-- In whatever order the sums are taken out of their table, the ranking is the same. -/
theorem best_of_perm {items : List (Nat × Float)}
    (h : items.Perm (index.candidateSums query pattern limit).toList) :
    Scored.best limit (items.map fun item => ⟨item.1, item.2⟩) =
      index.rankHybrid query pattern limit := by
  have hperm := h.map fun item => (⟨item.1, item.2⟩ : Scored Float)
  have hdistinct := distinct_items (index.candidateSums query pattern limit)
  exact Scored.best_congr (hdistinct.perm hperm) hdistinct fun s => hperm.mem_iff

/-- A hybrid search finds different tools, each of which stands before all that follow. The score of
a tool is the sum of what its sides give if it is among their candidates, and any candidate that is
left out stands after all that are found. There are as many hits as the limit allows and as tools
match, and the order in which the sums are taken out of their table makes no difference. -/
theorem hybrid_ranking (hbuilt : Built index) (hquery : query.length ≤ Pattern.maxLength)
    (limit : Nat) :
    let pattern := Pattern.Expr.compile query
    let byWords := at? (index.rankWords query (candidateLimit limit))
    let byPattern := at? (index.rankPattern pattern (candidateLimit limit))
    let isCandidate (s : Scored Float) : Prop :=
      ((byWords s.position).isSome ∨ (byPattern s.position).isSome) ∧
        s.score = (byWords s.position).getD 0.0 + patternWeight * (byPattern s.position).getD 0.0
    ∃ ranked, index.search query .hybrid limit = .ok (index.hits ranked) ∧
      (∀ s ∈ ranked, s.position < index.size) ∧
      (index.hits ranked).length = ranked.length ∧
      Distinct ranked ∧
      ranked.Pairwise Scored.Precedes ∧
      (∀ s ∈ ranked, isCandidate s) ∧
      (∀ s, isCandidate s → s ∉ ranked → ∀ found ∈ ranked, found.Precedes s) ∧
      ranked.length = min limit (index.matchCount query pattern) ∧
      ∀ items : List (Nat × Float), items.Perm (index.candidateSums query pattern limit).toList →
        Scored.best limit (items.map fun item => ⟨item.1, item.2⟩) = ranked := by
  intro pattern byWords byPattern isCandidate
  let candidates := index.cutMatches query pattern (2 * limit)
  have hcandidates : candidates = index.cutMatches query pattern (candidateLimit limit) :=
    (cutMatches_candidateLimit hbuilt).symm
  have hmem (s : Scored Float) : s ∈ candidates ↔ isCandidate s := by
    rw [hcandidates, cutMatches, mem_fuse, fusedScore?_eq_some]
    refine and_iff_right_of_imp fun h => ?_
    exact lt_size_of_fusedScore? hbuilt (fusedScore?_eq_some.mpr h)
  have hdistinct : Distinct candidates := distinct_fuse _ _ _
  have hvalid (s : Scored Float) (hs : s ∈ Scored.best limit candidates) :
      s.position < index.size := (mem_fuse.mp (Scored.mem_of_mem_best hs)).1
  have hranked : index.rankHybrid query pattern limit = Scored.best limit candidates :=
    rankHybrid_eq hbuilt
  refine ⟨Scored.best limit candidates, search_hybrid_eq hbuilt hquery limit, hvalid,
    hits_length hvalid, Scored.distinct_best hdistinct, Scored.precedes_best hdistinct,
    fun s hs => ?_, fun s hs hnot found hfound => ?_, ?_, fun items hitems => ?_⟩
  · exact (hmem s).mp (Scored.mem_of_mem_best hs)
  · exact Scored.precedes_of_not_mem_best hdistinct ((hmem s).mpr hs) hnot hfound
  · exact length_best_cutMatches hbuilt (by omega)
  · rw [best_of_perm hitems, hranked]

theorem logIndex_matchCount : logIndex.matchCount "log" logPattern = 3 := by
  have hall : logIndex.matchCount "log" logPattern = (List.range logIndex.size).length := by
    refine List.countP_eq_length.mpr fun position hposition => ?_
    rw [logIndex_patternScore? (List.mem_range.mp hposition)]
    exact Bool.or_true _
  rw [hall, List.length_range, logIndex_size]

/-- The greatest limit finds all three tools, and a limit of one finds one of them although its
windows have no room for all. -/
theorem hybrid_ranking_logIndex :
    (∃ hits, logIndex.search "log" .hybrid Json.maxInteger = .ok hits ∧ hits.length = 3) ∧
      ∃ hits, logIndex.search "log" .hybrid 1 = .ok hits ∧ hits.length = 1 := by
  have hquery : "log".length ≤ Pattern.maxLength := by decide
  obtain ⟨all, hall, -, hlength, -, -, -, -, hcount, -⟩ :=
    hybrid_ranking logIndex_built hquery Json.maxInteger
  obtain ⟨one, hone, -, honeLength, -, -, -, -, honeCount, -⟩ :=
    hybrid_ranking logIndex_built hquery 1
  refine ⟨⟨_, hall, ?_⟩, _, hone, ?_⟩
  · rw [hlength, hcount]
    exact congrArg (min Json.maxInteger) logIndex_matchCount
  · rw [honeLength, honeCount]
    exact congrArg (min 1) logIndex_matchCount

end CatalogIndex

end ToolDiscovery
