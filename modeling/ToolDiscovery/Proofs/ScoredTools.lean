import ToolDiscovery.Proofs.IndexBatches

/-!
# Tools with scores of their own

In a search by words, and in a search for a pattern, a tool has a score for its own texts, and it
does not matter where it stands. So what these searches find is made from the tools one by one:
`answers_eq_scored` and `patternMatches_eq_scored`. The hits are then made from the tools as well,
and their positions are no longer needed: `hits_scored`.
-/

namespace ToolDiscovery.CatalogIndex

/-- The tools that have a score, each at its position. -/
def scored (index : CatalogIndex) (score? : IndexEntry → Option Float) : List (Scored Float) :=
  index.entries.toList.zipIdx.filterMap fun (entry, position) =>
    (score? entry).map fun score => ⟨position, score⟩

/-- How well the texts of a tool answer the words of a query, if they do so at all. -/
def entryScore? (corpus : Corpus) (query : String) (entry : IndexEntry) : Option Float :=
  documentScore? corpus query (.ofText entry.document)

variable {index : CatalogIndex} {score? : IndexEntry → Option Float} {s : Scored Float}
  {ranked : List (Scored Float)} {query : String} {pattern : Pattern.Expr}
  {tools : List ToolDefinition} {position : Nat} {entry : IndexEntry}

theorem mem_scored : s ∈ index.scored score? ↔
    index.entries[s.position]?.bind score? = some s.score := by
  rw [← Array.getElem?_toList]
  exact Scored.mem_zipIdx_filterMap

theorem lt_size_of_mem_scored (h : s ∈ index.scored score?) : s.position < index.size := by
  obtain ⟨entry, hentry, -⟩ := Option.bind_eq_some_iff.mp (mem_scored.mp h)
  exact (Array.getElem?_eq_some_iff.mp hentry).1

/-- Each position comes after those before it. -/
theorem positions_scored : (index.scored score?).Pairwise (·.position < ·.position) := by
  have hpositions : (index.entries.toList.zipIdx.map Prod.snd).Pairwise (· < ·) := by
    rw [List.zipIdx_map_snd]
    exact List.pairwise_lt_range'
  refine List.pairwise_filterMap.mpr ((List.pairwise_map.mp hpositions).imp ?_)
  intro a b hlt s hs t ht
  obtain ⟨_, -, rfl⟩ := Option.map_eq_some_iff.mp hs
  obtain ⟨_, -, rfl⟩ := Option.map_eq_some_iff.mp ht
  exact hlt

/-- The scores of what is found are those of the tools. -/
theorem map_score_scored :
    (index.scored score?).map (·.score) = index.entries.toList.filterMap score? := by
  conv_rhs => rw [← List.zipIdx_map_fst 0 index.entries.toList, List.filterMap_map]
  rw [scored, List.map_filterMap]
  refine List.filterMap_congr fun item _ => ?_
  rw [Option.map_map]
  exact Option.map_id'

/-! ## The scores of words and patterns -/

/-- An index of tools has their entries, and its parts belong together. -/
theorem aligned_of_add (h : CatalogIndex.add {} tools = .ok index) :
    Aligned index ∧ index.entries.toList = tools.map .ofDefinition := by
  refine ⟨(Built.empty.add h).aligned, ?_⟩
  rw [((add_eq_ok Corpus.current_empty).mp h).2, entries_pushAll]
  rfl

theorem Aligned.wordScore?_eq (h : Aligned index) (hentry : index.entries[position]? = some entry)
    (query : String) : index.wordScore? query position = entryScore? index.corpus query entry := by
  rw [← Array.getElem?_toList] at hentry
  rw [wordScore?, ← Array.getElem?_toList, h.documents, List.getElem?_map, hentry]
  rfl

theorem patternScore?_eq (hentry : index.entries[position]? = some entry)
    (pattern : Pattern.Expr) :
    index.patternScore? pattern position = entry.patternScore? pattern := by
  rw [patternScore?, hentry]
  rfl

theorem answers_eq_scored (h : Aligned index) :
    Bm25.default.answers index.corpus (Text.tokenize query) =
      index.scored (entryScore? index.corpus query) := by
  rw [Bm25.answers_eq, h.documents, List.zipIdx_map, List.filterMap_map, ← documentScore?_eq]
  rfl

theorem patternMatches_eq_scored :
    index.patternMatches pattern = index.scored (·.patternScore? pattern) := rfl

/-! ## Hits -/

theorem hits_scored : index.hits (index.scored score?) =
    index.entries.toList.filterMap fun entry =>
      (score? entry).map fun score => ⟨entry.name, score⟩ := by
  conv_rhs => rw [← List.zipIdx_map_fst 0 index.entries.toList, List.filterMap_map]
  rw [hits, scored, List.filterMap_filterMap]
  refine List.filterMap_congr fun item hitem => ?_
  have hentry : index.entries[item.2]? = some item.1 := by
    rw [← Array.getElem?_toList]
    exact List.mem_zipIdx_iff_getElem?.mp hitem
  cases hscore : score? item.1 with
  | none => simp [hscore]
  | some score => simp [hscore, hentry]

theorem hits_cons (h : index.entries[s.position]? = some entry) :
    index.hits (s :: ranked) = ⟨entry.name, s.score⟩ :: index.hits ranked :=
  List.filterMap_cons_some (by rw [h]; rfl)

/-- No score of a tool is lost in the hits. -/
theorem map_score_hits (h : ∀ s ∈ ranked, s.position < index.size) :
    (index.hits ranked).map (·.score) = ranked.map (·.score) := by
  induction ranked with
  | nil => rfl
  | cons s rest ih =>
      have hentry : index.entries[s.position]? = some _ :=
        Array.getElem?_eq_getElem (h s List.mem_cons_self)
      rw [hits_cons hentry, List.map_cons, List.map_cons,
        ih fun t ht => h t (List.mem_cons_of_mem _ ht)]

/-- The first hits are those of the first positions. -/
theorem hits_take (h : ∀ s ∈ ranked, s.position < index.size) (limit : Nat) :
    index.hits (ranked.take limit) = (index.hits ranked).take limit := by
  induction ranked generalizing limit with
  | nil => simp [hits]
  | cons s rest ih =>
      have hentry : index.entries[s.position]? = some _ :=
        Array.getElem?_eq_getElem (h s List.mem_cons_self)
      cases limit with
      | zero => rfl
      | succ limit =>
          rw [List.take_succ_cons, hits_cons hentry, hits_cons hentry, List.take_succ_cons,
            ih fun t ht => h t (List.mem_cons_of_mem _ ht)]

end ToolDiscovery.CatalogIndex
