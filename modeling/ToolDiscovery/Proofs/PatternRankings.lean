import ToolDiscovery.Proofs.ScoredTools
import ToolDiscovery.Proofs.SearchFailures

/-!
# Rankings of patterns

A tool in whose name a pattern occurs has a higher score than one in which it occurs in another text
only. So the ranking of a pattern falls into two groups, each in the order of the catalog:
`rank_patternMatches`. A search gives the first tools of the two groups: `search_pattern_groups`.
-/

namespace ToolDiscovery.CatalogIndex

open Scored (Precedes)

/-- The tools with a property, all with the same score. -/
def group (index : CatalogIndex) (property : IndexEntry → Bool) (score : Float) :
    List (Scored Float) :=
  index.scored fun entry => if property entry then some score else none

/-- The pattern occurs in the name of a tool. -/
def inName (pattern : Pattern.Expr) (entry : IndexEntry) : Bool :=
  pattern.occursIn entry.name.toList

/-- The pattern does not occur in the name of a tool, but in its description or in the text of its
parameters. -/
def inTextOnly (pattern : Pattern.Expr) (entry : IndexEntry) : Bool :=
  !inName pattern entry &&
    (pattern.occursIn entry.description.toList || pattern.occursIn entry.parameterText.toList)

variable {index : CatalogIndex} {property : IndexEntry → Bool} {score : Float} {s : Scored Float}
  {pattern : Pattern.Expr} {entry : IndexEntry}

/-! ## Tools with the same score -/

theorem mem_group : s ∈ index.group property score ↔
    (∃ entry, index.entries[s.position]? = some entry ∧ property entry) ∧ s.score = score := by
  rw [group, mem_scored, Option.bind_eq_some_iff]
  simp only [Option.ite_none_right_eq_some, Option.some.injEq, ← and_assoc, exists_and_right,
    eq_comm]

/-- Of tools with the same score the earlier one comes first. -/
theorem precedes_group : (index.group property score).Pairwise Precedes := by
  refine List.Pairwise.imp_of_mem (fun hs ht hlt => .inr ⟨?_, hlt⟩) positions_scored
  rw [Scored.key, Scored.key, (mem_group.mp hs).2, (mem_group.mp ht).2]

/-- The hits of tools with the same score stand in the order of the catalog. -/
theorem hits_group : index.hits (index.group property score) =
    (index.entries.toList.filter property).map fun entry => ⟨entry.name, score⟩ := by
  rw [group, hits_scored, ← List.filterMap_eq_map, List.filterMap_filter]
  refine List.filterMap_congr fun entry _ => ?_
  by_cases h : property entry
  · simp [h]
  · simp [h]

/-! ## The two groups -/

theorem patternScore?_eq_some : entry.patternScore? pattern = some score ↔
    inName pattern entry ∧ score = IndexEntry.nameScore ∨
      inTextOnly pattern entry ∧ score = IndexEntry.textScore := by
  have hsome {scored : Float} : some scored = some score ↔ score = scored := by
    rw [Option.some.injEq, eq_comm]
  unfold IndexEntry.patternScore? inTextOnly inName
  cases hname : pattern.occursIn entry.name.toList with
  | true => simp [hsome]
  | false =>
      cases hdescription : pattern.occursIn entry.description.toList with
      | true => simp [hsome]
      | false =>
          cases hparameters : pattern.occursIn entry.parameterText.toList with
          | true => simp [hsome]
          | false => simp

theorem rank_patternMatches (index : CatalogIndex) (pattern : Pattern.Expr) :
    Scored.rank (index.patternMatches pattern) =
      index.group (inName pattern) IndexEntry.nameScore ++
        index.group (inTextOnly pattern) IndexEntry.textScore := by
  refine (Scored.eq_rank_of_precedes distinct_patternMatches (fun s => ?_) ?_).symm
  · rw [List.mem_append, mem_group, mem_group, mem_patternMatches, patternScore?,
      Option.bind_eq_some_iff]
    simp only [patternScore?_eq_some, and_or_left, exists_or, exists_and_right, ← and_assoc]
  · refine List.pairwise_append.mpr ⟨precedes_group, precedes_group, fun s hs t ht => .inl ?_⟩
    rw [Scored.key, Scored.key, (mem_group.mp hs).2, (mem_group.mp ht).2]
    decide +kernel

theorem hits_rank_patternMatches (index : CatalogIndex) (pattern : Pattern.Expr) :
    index.hits (Scored.rank (index.patternMatches pattern)) =
      ((index.entries.toList.filter (inName pattern)).map fun entry =>
        ⟨entry.name, IndexEntry.nameScore⟩) ++
      (index.entries.toList.filter (inTextOnly pattern)).map fun entry =>
        ⟨entry.name, IndexEntry.textScore⟩ := by
  rw [rank_patternMatches, ← hits_group, ← hits_group]
  exact List.filterMap_append

/-- A search for a pattern gives the first ones of two groups. All tools in whose names the pattern
occurs come first, with the score two. The tools in which it occurs in the description or in the
text of the parameters only come behind them, with the score one. Each group stands in the order of
the catalog. No position is found twice, and a search for more tools begins with the same ones. -/
theorem search_pattern_groups (index : CatalogIndex) {pattern : String}
    (h : pattern.length ≤ 200) (limit : Nat) :
    let occursIn (text : String) := (Pattern.Expr.compile pattern).occursIn text.toList
    let named := index.entries.toList.filter fun entry => occursIn entry.name
    let others := index.entries.toList.filter fun entry =>
      !occursIn entry.name && (occursIn entry.description || occursIn entry.parameterText)
    let all : List Hit :=
      (named.map fun entry => ⟨entry.name, 2.0⟩) ++ others.map fun entry => ⟨entry.name, 1.0⟩
    index.searchPattern pattern limit = .ok (all.take limit) ∧
    (∃ ranked, index.ranking pattern .regex limit = .ok ranked ∧
      (ranked.map (·.position)).Nodup ∧ (∀ s ∈ ranked, s.position < index.size) ∧
      index.hits ranked = all.take limit) ∧
    ∀ larger, limit ≤ larger →
      ∃ hits, index.searchPattern pattern larger = .ok hits ∧ all.take limit <+: hits := by
  intro occursIn named others all
  let found := index.patternMatches (Pattern.Expr.compile pattern)
  have hvalid (s : Scored Float) (hs : s ∈ found) : s.position < index.size :=
    lt_size_of_patternScore? (mem_patternMatches.mp hs)
  have hsearch (limit : Nat) : index.hits (Scored.best limit found) = all.take limit := by
    rw [Scored.best, hits_take fun s hs => hvalid s ((Scored.perm_rank found).mem_iff.mp hs),
      hits_rank_patternMatches]
    rfl
  have hcompile : compilePattern pattern = .ok (Pattern.Expr.compile pattern) :=
    compilePattern_of_le h
  have hhits (limit : Nat) : index.searchPattern pattern limit = .ok (all.take limit) := by
    rw [← hsearch, searchPattern, hcompile]
    rfl
  refine ⟨hhits limit, ⟨Scored.best limit found, ?_, ?_, ?_, hsearch limit⟩, ?_⟩
  · rw [ranking, hcompile]
    rfl
  · exact distinct_rankPattern
  · exact fun s hs => hvalid s (Scored.mem_of_mem_best hs)
  · exact fun larger hle => ⟨_, hhits larger, List.take_prefix_take_left hle⟩

/-- The tool in whose name the pattern occurs comes first, though it stands behind the one in whose
description it occurs. -/
theorem search_pattern_groups_log :
    let note : ToolDefinition := { namedTool "note" with description := "Writes a log." }
    ∃ index, CatalogIndex.add {} [note, namedTool "catalog", namedTool "mail"] = .ok index ∧
      index.searchPattern "log" 1 = .ok [⟨"catalog", 2.0⟩] ∧
      index.searchPattern "log" 5 = .ok [⟨"catalog", 2.0⟩, ⟨"note", 1.0⟩] := by
  intro note
  let index := pushAll {} [note, namedTool "catalog", namedTool "mail"]
  have hcompile : Pattern.Expr.compile "log" = Pattern.spelled "log".toList := by
    have hwritten : String.ofList (Pattern.escaped "log".toList) = "log" := by decide
    rw [Pattern.Expr.compile_eq, ← hwritten, Pattern.build?_escaped (by decide)]
    rfl
  have hentries : index.entries.toList =
      [⟨"note", "Writes a log.", ""⟩, ⟨"catalog", "", ""⟩, ⟨"mail", "", ""⟩] := by
    rw [entries_pushAll]
    rfl
  have hoccurs : ["note", "Writes a log.", "catalog", "mail", ""].map
      (fun text => (Pattern.spelled "log".toList).occursIn text.toList) =
        [false, true, true, false, false] := by decide +kernel
  simp only [List.map_cons, List.cons.injEq] at hoccurs
  obtain ⟨hnote, hwrites, hcatalog, hmail, hnone, -⟩ := hoccurs
  have hsearch (limit : Nat) : index.searchPattern "log" limit =
      .ok ([⟨"catalog", 2.0⟩, ⟨"note", 1.0⟩].take limit) := by
    rw [(@search_pattern_groups index "log" (by decide) limit).1, hentries, hcompile]
    simp only [List.filter_cons, List.filter_nil, hnote, hwrites, hcatalog, hmail, hnone,
      Bool.not_false, Bool.not_true, Bool.or_false, Bool.and_self, Bool.and_false,
      Bool.false_eq_true, if_true, if_false]
    rfl
  exact ⟨index, add_of_le Corpus.current_empty (by decide), hsearch 1, hsearch 5⟩

end ToolDiscovery.CatalogIndex
