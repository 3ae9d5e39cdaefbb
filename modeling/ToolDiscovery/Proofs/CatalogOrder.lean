import ToolDiscovery.Proofs.ScoredTools

/-!
# The order of a catalog

What a corpus computes from its counts does not depend on the order of the texts
(`Corpus.Describes.idf?_eq_of_perm`), so a tool has the same score wherever it stands. The position
of a tool only decides between equal scores: two lists with the same scores, in whatever order, are
ranked with the same scores one after the other (`Scored.map_score_best_eq`). A search over the
tools of a catalog in another order can only exchange tools with the same score:
`CatalogIndex.search_reordered`.
-/

namespace ToolDiscovery

/-- Two different numbers do not have the same place in the total order. -/
theorem totalOrderKey_injective : Function.Injective totalOrderKey := by
  intro x y h
  have hx : x.toBits.toNat < 2 ^ 64 := x.toBits.toNat_lt
  have hy : y.toBits.toNat < 2 ^ 64 := y.toBits.toNat_lt
  have hbits : x.toBits.toNat = y.toBits.toNat := by
    unfold totalOrderKey Binary64.signBit at h
    simp only at h
    split at h <;> split at h <;> omega
  rw [← Float.ofBits_toBits x, UInt64.toNat.inj hbits, Float.ofBits_toBits]

namespace Scored

variable {l m : List (Scored Float)}

theorem pairwise_map_score_rank (l : List (Scored Float)) :
    ((rank l).map (·.score)).Pairwise fun x y => totalOrderKey y ≤ totalOrderKey x := by
  refine List.pairwise_map.mpr ((pairwise_rank l).imp fun hbefore => ?_)
  rcases ranksBefore_iff.mp hbefore with hless | ⟨hsame, -⟩
  · exact Int.le_of_lt hless
  · exact Int.le_of_eq hsame

/-- The scores of a ranking are determined by the scores of what is ranked. -/
theorem map_score_rank_eq (h : (l.map (·.score)).Perm (m.map (·.score))) :
    (rank l).map (·.score) = (rank m).map (·.score) := by
  have hperm : ((rank l).map (·.score)).Perm ((rank m).map (·.score)) :=
    ((perm_rank l).map _).trans (h.trans ((perm_rank m).map _).symm)
  refine hperm.eq_of_pairwise ?_ (pairwise_map_score_rank l) (pairwise_map_score_rank m)
  exact fun x y _ _ hxy hyx => totalOrderKey_injective (Int.le_antisymm hyx hxy)

/-- So are those of its first members. -/
theorem map_score_best_eq (h : (l.map (·.score)).Perm (m.map (·.score))) (n : Nat) :
    (best n l).map (·.score) = (best n m).map (·.score) := by
  rw [best, best, List.map_take, List.map_take, map_score_rank_eq h]

end Scored

/-! ## Texts in another order -/

namespace Corpus.Describes

variable {α : Type} [Arithmetic α] {corpus other : Corpus α} {texts others : List String}

theorem averageLength_eq_of_perm (h : corpus.Describes texts) (hother : other.Describes others)
    (hperm : texts.Perm others) : corpus.averageLength = other.averageLength := by
  have hempty : texts = [] ↔ others = [] := by
    rw [← List.length_eq_zero_iff, ← List.length_eq_zero_iff, hperm.length_eq]
  have htokens : (texts.flatMap Text.tokenize).length = (others.flatMap Text.tokenize).length :=
    (hperm.flatMap_right _).length_eq
  rw [h.averageLength, hother.averageLength, hperm.length_eq, htokens]
  simp only [hempty]

theorem idf?_eq_of_perm (h : corpus.Describes texts) (hother : other.Describes others)
    (hperm : texts.Perm others) (token : String) : corpus.idf? token = other.idf? token := by
  have hcount : textsWith texts token = textsWith others token := hperm.countP_eq _
  apply Option.ext
  intro weight
  rw [h.idf?, hother.idf?, hcount, hperm.length_eq]
  simp only [hperm.mem_iff]

end Corpus.Describes

/-- How well a document answers a query depends on nothing but what a corpus computes. -/
theorem Bm25.score_congr {α : Type} [Arithmetic α] {corpus other : Corpus α}
    (haverage : corpus.averageLength = other.averageLength)
    (hidf : ∀ token, corpus.idf? token = other.idf? token) (parameters : Bm25 α)
    (terms : List String) (document : Document) :
    parameters.score corpus terms document = parameters.score other terms document := by
  have hnorm : parameters.lengthNorm corpus document = parameters.lengthNorm other document := by
    rw [lengthNorm, lengthNorm, haverage]
  have htoken (token : String) (count : Nat) :
      parameters.tokenScore corpus document token count =
        parameters.tokenScore other document token count := by
    rw [tokenScore, tokenScore, hidf, hnorm]
  simp only [score, htoken]

/-! ## Tools in another order -/

namespace CatalogIndex

variable {index other : CatalogIndex} {tools others : List ToolDefinition}
  {score? : IndexEntry → Option Float} {limit : Nat}

theorem map_score_scored_perm (hperm : index.entries.toList.Perm other.entries.toList) :
    ((index.scored score?).map (·.score)).Perm ((other.scored score?).map (·.score)) := by
  rw [map_score_scored, map_score_scored]
  exact hperm.filterMap score?

/-- The same tools in another order have the same scores, one after the other. -/
theorem map_score_hits_best_eq (hperm : index.entries.toList.Perm other.entries.toList)
    (limit : Nat) :
    (index.hits (Scored.best limit (index.scored score?))).map (·.score) =
      (other.hits (Scored.best limit (other.scored score?))).map (·.score) := by
  rw [map_score_hits fun s hs => lt_size_of_mem_scored (Scored.mem_of_mem_best hs),
    map_score_hits fun s hs => lt_size_of_mem_scored (Scored.mem_of_mem_best hs),
    Scored.map_score_best_eq (map_score_scored_perm hperm)]

/-- If there is room for all, the same tools are found. -/
theorem hits_best_perm (hperm : index.entries.toList.Perm other.entries.toList)
    (hlimit : (index.scored score?).length ≤ limit) :
    (index.hits (Scored.best limit (index.scored score?))).Perm
      (other.hits (Scored.best limit (other.scored score?))) := by
  have hlength : (index.scored score?).length = (other.scored score?).length := by
    have hscores := (@map_score_scored_perm _ _ score? hperm).length_eq
    rwa [List.length_map, List.length_map] at hscores
  have hall : (index.hits (Scored.best limit (index.scored score?))).Perm
      (index.hits (index.scored score?)) :=
    (Scored.perm_best_of_length_le hlimit).filterMap _
  have hallOther : (other.hits (Scored.best limit (other.scored score?))).Perm
      (other.hits (other.scored score?)) :=
    (Scored.perm_best_of_length_le (hlength ▸ hlimit)).filterMap _
  have hscored : (index.hits (index.scored score?)).Perm (other.hits (other.scored score?)) := by
    rw [hits_scored, hits_scored]
    exact hperm.filterMap _
  exact hall.trans (hscored.trans hallOther.symm)

theorem Aligned.describes (h : Aligned index) :
    index.corpus.Describes (index.entries.toList.map (·.document)) := by
  rw [h.corpus]
  exact .of_add _

/-- The corpora of the same tools in another order compute the same. -/
theorem Aligned.corpus_eq_of_perm (h : Aligned index) (hother : Aligned other)
    (hperm : index.entries.toList.Perm other.entries.toList) :
    index.corpus.averageLength = other.corpus.averageLength ∧
      ∀ token, index.corpus.idf? token = other.corpus.idf? token :=
  ⟨h.describes.averageLength_eq_of_perm hother.describes (hperm.map _),
    h.describes.idf?_eq_of_perm hother.describes (hperm.map _)⟩

theorem Aligned.entryScore?_eq_of_perm (h : Aligned index) (hother : Aligned other)
    (hperm : index.entries.toList.Perm other.entries.toList) (query : String) :
    entryScore? index.corpus query = entryScore? other.corpus query := by
  obtain ⟨haverage, hidf⟩ := h.corpus_eq_of_perm hother hperm
  funext entry
  simp only [entryScore?, documentScore?, Bm25.score_congr haverage hidf]

theorem add_eq_error_of_perm {error : DiscoveryError} (hperm : tools.Perm others) :
    CatalogIndex.add {} tools = .error error ↔ CatalogIndex.add {} others = .error error := by
  rw [add_eq_error Corpus.current_empty, add_eq_error Corpus.current_empty, hperm.length_eq]

/-- Catalogs with the same tools in different orders are refused alike. If they are not, the average
length of the documents and the weight of each token are the same, so that each tool has the same
score in both, for words and for a pattern. Searches over both give the same scores one after the
other, even if the limit leaves out tools that have the same score as others. If the limit leaves
nothing out, the hits are the same, and only those with the same score can have changed places. -/
theorem search_reordered (h : tools.Perm others) :
    (∀ error, CatalogIndex.add {} tools = .error error ↔
      CatalogIndex.add {} others = .error error) ∧
    ∀ index other, CatalogIndex.add {} tools = .ok index → CatalogIndex.add {} others = .ok other →
      index.corpus.averageLength = other.corpus.averageLength ∧
      (∀ token, index.corpus.idf? token = other.corpus.idf? token) ∧
      (∀ terms document, Bm25.default.score index.corpus terms document =
        Bm25.default.score other.corpus terms document) ∧
      (∀ query pattern (position place : Nat) tool,
        tools[position]? = some tool → others[place]? = some tool →
        index.wordScore? query position = other.wordScore? query place ∧
          index.patternScore? pattern position = other.patternScore? pattern place) ∧
      (∀ query limit,
        (index.searchWords query limit).map (·.score) =
          (other.searchWords query limit).map (·.score) ∧
        ((Bm25.default.answers index.corpus (Text.tokenize query)).length ≤ limit →
          (index.searchWords query limit).Perm (other.searchWords query limit))) ∧
      ∀ pattern limit, pattern.length ≤ 200 → ∃ hits reordered,
        index.searchPattern pattern limit = .ok hits ∧
        other.searchPattern pattern limit = .ok reordered ∧
        hits.map (·.score) = reordered.map (·.score) ∧
        ((index.patternMatches (.compile pattern)).length ≤ limit → hits.Perm reordered) := by
  refine ⟨fun error => add_eq_error_of_perm h, fun index other hindex hother => ?_⟩
  obtain ⟨haligned, hentries⟩ := aligned_of_add hindex
  obtain ⟨halignedOther, hentriesOther⟩ := aligned_of_add hother
  have hperm : index.entries.toList.Perm other.entries.toList := by
    rw [hentries, hentriesOther]
    exact h.map _
  obtain ⟨haverage, hidf⟩ := haligned.corpus_eq_of_perm halignedOther hperm
  have hscore := haligned.entryScore?_eq_of_perm halignedOther hperm
  refine ⟨haverage, hidf, Bm25.score_congr haverage hidf _, ?_, fun query limit => ?_,
    fun pattern limit hpattern => ?_⟩
  · intro query pattern position place tool htool hplace
    have hentry : index.entries[position]? = some (.ofDefinition tool) := by
      rw [← Array.getElem?_toList, hentries, List.getElem?_map, htool, Option.map_some]
    have hentryOther : other.entries[place]? = some (.ofDefinition tool) := by
      rw [← Array.getElem?_toList, hentriesOther, List.getElem?_map, hplace, Option.map_some]
    rw [haligned.wordScore?_eq hentry, halignedOther.wordScore?_eq hentryOther, hscore,
      patternScore?_eq hentry, patternScore?_eq hentryOther]
    exact ⟨rfl, rfl⟩
  · unfold searchWords rankWords Bm25.search
    rw [answers_eq_scored haligned, answers_eq_scored halignedOther, hscore]
    exact ⟨map_score_hits_best_eq hperm limit, hits_best_perm hperm⟩
  · have hsearch (index : CatalogIndex) : index.searchPattern pattern limit = .ok (index.hits
        (Scored.best limit (index.scored (·.patternScore? (.compile pattern))))) := by
      rw [searchPattern, compilePattern_of_le hpattern]
      rfl
    refine ⟨_, _, hsearch index, hsearch other, map_score_hits_best_eq hperm limit, ?_⟩
    rw [patternMatches_eq_scored]
    exact hits_best_perm hperm

/-- When three tools come in the opposite order, the last one keeps its score as the first one. A
search that has room for all of them finds the same ones. -/
theorem search_reordered_reverse :
    let tools := ["catalog", "dialog", "log"].map namedTool
    ∃ other, CatalogIndex.add {} tools.reverse = .ok other ∧
      logIndex.wordScore? "log" 2 = other.wordScore? "log" 0 ∧
      (logIndex.searchWords "log" 1).map (·.score) = (other.searchWords "log" 1).map (·.score) ∧
      ∃ hits reordered, logIndex.searchPattern "log" 3 = .ok hits ∧
        other.searchPattern "log" 3 = .ok reordered ∧ hits.Perm reordered := by
  intro tools
  have hindex : CatalogIndex.add {} tools = .ok logIndex :=
    add_of_le Corpus.current_empty (by decide)
  have hother : CatalogIndex.add {} tools.reverse = .ok (pushAll {} tools.reverse) :=
    add_of_le Corpus.current_empty (by decide)
  obtain ⟨-, -, -, hscores, hwords, hpattern⟩ :=
    (search_reordered (List.reverse_perm tools).symm).2 _ _ hindex hother
  obtain ⟨hits, reordered, hhits, hreordered, -, hperm⟩ := hpattern "log" 3 (by decide)
  have hlength : (logIndex.patternMatches (.compile "log")).length ≤ 3 :=
    Nat.le_trans (List.length_filterMap_le _ _) (by rw [List.length_zipIdx]; decide)
  exact ⟨_, hother, (hscores "log" .empty 2 0 (namedTool "log") rfl rfl).1, (hwords "log" 1).1,
    hits, reordered, hhits, hreordered, hperm hlength⟩

end CatalogIndex

end ToolDiscovery
