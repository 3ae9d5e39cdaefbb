import ToolDiscovery.Proofs.CatalogRoundTrip
import ToolDiscovery.Proofs.Previews
import ToolDiscovery.Proofs.ScoredTools
import ToolDiscovery.Proofs.UnlockedTools

/-!
# What a search tells about its hits

A hit has a name, and the description that is shown beside it is looked up by that name. In a
catalog that has been read no two tools have the same name, so that this is the description of the
tool that was found and scored: `CatalogIndex.description?_name`. `Policy.search_report` spells out
what a search tells.
-/

namespace ToolDiscovery

namespace CatalogIndex

open Scored (Distinct)

/-- A score that a tool can have in a search for its own texts. In the hybrid mode it is the sum of
its scores in the two ways, of which one may be missing. -/
inductive Earns (index : CatalogIndex) (query : String) (entry : IndexEntry) :
    SearchMode → Float → Prop
  | byWords {score : Float} (h : entryScore? index.corpus query entry = some score) :
      Earns index query entry .bm25 score
  | byPattern {score : Float} (h : entry.patternScore? (.compile query) = some score) :
      Earns index query entry .regex score
  | both {words? pattern? : Option Float} {score : Float}
      (hwords : ∀ words, words? = some words → entryScore? index.corpus query entry = some words)
      (hpattern : ∀ pattern, pattern? = some pattern →
        entry.patternScore? (.compile query) = some pattern)
      (hsum : fusedScore? words? pattern? = some score) :
      Earns index query entry .hybrid score

variable {index : CatalogIndex} {query : String} {mode : SearchMode} {limit position : Nat}
  {ranked : List (Scored Float)} {s : Scored Float} {entry : IndexEntry}

/-! ## What is ranked -/

/-- Every tool that is ranked has earned its score. -/
theorem earns_of_mem_ranking (hbuilt : Built index)
    (h : index.ranking query mode limit = .ok ranked) (hs : s ∈ ranked)
    (hentry : index.entries[s.position]? = some entry) : index.Earns query entry mode s.score := by
  have hwords := hbuilt.aligned.wordScore?_eq hentry query
  have hpattern := patternScore?_eq hentry (.compile query)
  cases mode with
  | bm25 =>
      cases h
      exact .byWords (hwords ▸ mem_answers.mp (Scored.mem_of_mem_best hs))
  | regex =>
      obtain rfl := eq_of_map_compilePattern h
      exact .byPattern (hpattern ▸ mem_patternMatches.mp (Scored.mem_of_mem_best hs))
  | hybrid =>
      obtain rfl := eq_of_map_compilePattern h
      rw [rankHybrid_eq hbuilt] at hs
      obtain ⟨-, hsum⟩ := mem_fuse.mp (Scored.mem_of_mem_best hs)
      exact .both (fun words hat => hwords ▸ wordScore?_of_at? hat)
        (fun score hat => hpattern ▸ patternScore?_of_at? hat) hsum

/-- No tool is ranked twice. -/
theorem distinct_of_ranking (hbuilt : Built index)
    (h : index.ranking query mode limit = .ok ranked) : Distinct ranked := by
  obtain rfl | rfl | rfl := ranking_ok h
  · exact distinct_rankWords
  · exact distinct_rankPattern
  · rw [rankHybrid_eq hbuilt]
    exact Scored.distinct_best (distinct_fuse _ _ _)

/-! ## Different names -/

theorem names_getElem? (index : CatalogIndex) (position : Nat) :
    index.names[position]? = index.entries[position]?.map (·.name) := by
  rw [names, List.getElem?_map, Array.getElem?_toList]

/-- If no two tools have the same name, the description of a name is that of its tool. -/
theorem description?_name (h : Aligned index) (hnames : index.names.Nodup)
    (hentry : index.entries[position]? = some entry) :
    index.description? entry.name = some entry.description := by
  have hname : index.names[position]? = some entry.name := by rw [names_getElem?, hentry]; rfl
  have hlast : StandsLastAt index.names entry.name position := by
    refine ⟨hname, fun later hlt hlater => ?_⟩
    have hbound : position < index.names.length := (List.getElem?_eq_some_iff.mp hname).1
    exact Nat.ne_of_lt hlt ((List.getElem?_inj hbound hnames).mp (hname.trans hlater.symm))
  rw [h.description?_eq hlast, hentry, Option.map_some]

/-- If no two tools have the same name, no two hits have. -/
theorem nodup_names_hits (hnames : index.names.Nodup) (h : Distinct ranked) :
    ((index.hits ranked).map (·.name)).Nodup := by
  rw [List.Nodup, List.pairwise_map, hits, List.pairwise_filterMap]
  refine (List.pairwise_map.mp h).imp fun hne hit hhit other hother hsame => ?_
  obtain ⟨entry, hentry, rfl⟩ := Option.map_eq_some_iff.mp hhit
  obtain ⟨entryOther, hentryOther, rfl⟩ := Option.map_eq_some_iff.mp hother
  have hname := (names_getElem? index _).trans (congrArg (Option.map (·.name)) hentry)
  have hnameOther := (names_getElem? index _).trans (congrArg (Option.map (·.name)) hentryOther)
  refine hne ((List.getElem?_inj (List.getElem?_eq_some_iff.mp hname).1 hnames).mp ?_)
  rw [hname, hnameOther]
  exact congrArg some hsame

/-! ## The tools of a ranking -/

/-- A tool that a search has found, with its score. -/
structure FoundTool where
  /-- The tool. -/
  tool : ToolDefinition
  /-- How well it matches. -/
  score : Float

/-- What stands at a position of a ranking is the tool of a catalog at that position, with a score
that the tool has earned. -/
structure Ranks (index : CatalogIndex) (tools : List ToolDefinition) (query : String)
    (mode : SearchMode) (s : Scored Float) (found : FoundTool) : Prop where
  tool : tools[s.position]? = some found.tool
  score : found.score = s.score
  earned : index.Earns query (.ofDefinition found.tool) mode found.score

variable {tools : List ToolDefinition} {found : List FoundTool}

theorem Ranks.entry_eq {item : FoundTool} (h : Ranks index tools query mode s item)
    (hentries : index.entries.toList = tools.map .ofDefinition) :
    index.entries[s.position]? = some (.ofDefinition item.tool) := by
  rw [← Array.getElem?_toList, hentries, List.getElem?_map, h.tool, Option.map_some]

theorem exists_ranks {l : List (Scored Float)}
    (h : ∀ s ∈ l, ∃ found, Ranks index tools query mode s found) :
    ∃ found, List.Forall₂ (Ranks index tools query mode) l found := by
  induction l with
  | nil => exact ⟨[], .nil⟩
  | cons s rest ih =>
      obtain ⟨hfirst, hrest⟩ := List.forall_mem_cons.mp h
      obtain ⟨first, hranks⟩ := hfirst
      obtain ⟨others, hothers⟩ := ih hrest
      exact ⟨first :: others, .cons hranks hothers⟩

/-- All that a search ranks are tools with scores that they have earned. -/
theorem exists_ranks_of_ranking (hadd : CatalogIndex.add {} tools = .ok index)
    (h : index.ranking query mode limit = .ok ranked) :
    ∃ found, List.Forall₂ (Ranks index tools query mode) ranked found := by
  have hbuilt : Built index := Built.empty.add hadd
  obtain ⟨-, hentries⟩ := aligned_of_add hadd
  refine exists_ranks fun s hs => ?_
  have hentry : index.entries[s.position]? = some _ :=
    Array.getElem?_eq_getElem (lt_size_of_mem_ranking hbuilt h s hs)
  have htool := hentry
  rw [← Array.getElem?_toList, hentries, List.getElem?_map, Option.map_eq_some_iff] at htool
  obtain ⟨tool, htool, hsame⟩ := htool
  exact ⟨⟨tool, s.score⟩, htool, rfl, hsame ▸ earns_of_mem_ranking hbuilt h hs hentry⟩

theorem hits_eq_of_ranks (hentries : index.entries.toList = tools.map .ofDefinition)
    (h : List.Forall₂ (Ranks index tools query mode) ranked found) :
    index.hits ranked = found.map fun item => ⟨item.tool.name, item.score⟩ := by
  induction h with
  | nil => rfl
  | cons hfirst _ ih =>
      rw [hits_cons (hfirst.entry_eq hentries), ih, List.map_cons, ← hfirst.score]
      rfl

/-- If no two tools have the same name, the description of the name is that of the tool. -/
theorem description?_of_ranks (h : Aligned index) (hnames : index.names.Nodup)
    (hentries : index.entries.toList = tools.map .ofDefinition)
    (hranks : List.Forall₂ (Ranks index tools query mode) ranked found) :
    ∀ item ∈ found, index.description? item.tool.name = some item.tool.description := by
  induction hranks with
  | nil => exact List.forall_mem_nil _
  | cons hfirst _ ih =>
      exact List.forall_mem_cons.mpr ⟨description?_name h hnames (hfirst.entry_eq hentries), ih⟩

end CatalogIndex

/-! ## Reports -/

/-- What a search tells about tools, if their descriptions are those of their names. -/
theorem SearchReport.found_eq {index : CatalogIndex} {found : List CatalogIndex.FoundTool}
    (h : ∀ item ∈ found, index.description? item.tool.name = some item.tool.description)
    (query : String) (mode : SearchMode) (unlocked : List String) :
    SearchReport.found index query mode (found.map fun item => ⟨item.tool.name, item.score⟩)
        unlocked =
      header query mode found.length ++ String.join (found.mapIdx fun rank item =>
        hitLine (rank + 1) ⟨item.tool.name, item.score⟩ item.tool.description) ++
      trailer unlocked := by
  unfold SearchReport.found
  rw [List.length_map, List.zipIdx_map, List.map_map, List.mapIdx_eq_zipIdx_map]
  refine congrArg (header query mode found.length ++ String.join · ++ trailer unlocked)
    (List.map_congr_left fun item hitem => ?_)
  show hitLine (item.2 + 1) _ ((index.description? item.1.tool.name).getD "") = _
  rw [h item.1 (List.fst_mem_of_mem_zipIdx hitem), Option.getD_some]

/-- Names are reported in the order of the hits. -/
theorem unlockHits_names_sublist (alwaysInclude : List String) (hits : List Hit)
    (session : Session) :
    (unlockHits alwaysInclude hits session).2.Sublist (hits.map (·.name)) := by
  induction hits generalizing session with
  | nil => exact .slnil
  | cons hit rest ih =>
      rw [unlockHits, List.map_cons]
      split
      · exact (ih session).cons _
      · exact (ih _).cons_cons _

namespace Policy

variable {policy : Policy} {indexed : IndexedCatalog} {catalog : List ToolDefinition}
  {request : SearchRequest} {session : Session} {outcome : SearchOutcome} {hits : List Hit}
  {text : String}

/-- A catalog that has been read has different names, and so have the tools that can be searched
for. -/
theorem nodup_names_searchable (h : Catalog.parse text = .ok catalog) :
    ((searchableTools catalog).map (·.name)).Nodup := by
  obtain ⟨-, -, -, -, -, hnames⟩ := Catalog.parse_eq_ok.mp h
  have htrimmed : ((catalog.map (·.name)).map Text.trim).Nodup := by
    rw [List.map_map]
    exact hnames.distinct
  exact (List.Nodup.of_map _ htrimmed).sublist (List.filter_sublist.map _)

theorem add_of_build (h : policy.build catalog = .ok indexed) :
    CatalogIndex.add {} (searchableTools catalog) = .ok indexed.index := by
  obtain ⟨index, hadd, hpure⟩ := Json.except_bind_eq_ok.mp h
  cases hpure
  exact hadd

/-- Hits come from a ranking of the index. -/
theorem exists_ranking (hindexed : policy.indexed? = some indexed)
    (h : policy.hitsOf request = .ok hits) (hfound : hits ≠ []) :
    ∃ ranked, indexed.index.ranking request.query (policy.modeOf request)
      (policy.limitOf request) = .ok ranked ∧ hits = indexed.index.hits ranked := by
  obtain ⟨-, other, hother, hsearch⟩ := exists_index_of_hits h hfound
  obtain rfl : indexed = other := Option.some.inj (hindexed.symm.trans hother)
  rw [CatalogIndex.search_eq_ranking] at hsearch
  cases hranked : indexed.index.ranking request.query (policy.modeOf request)
      (policy.limitOf request) with
  | error error =>
      rw [hranked] at hsearch
      cases hsearch
  | ok ranked =>
      rw [hranked] at hsearch
      exact ⟨ranked, rfl, (Except.ok.inj hsearch).symm⟩

/-- If the catalog has been read from a text, the hits of a search have different names. What is
told about them are their number and, for each rank from one on, the name of the tool that stands
there, the score that this tool has earned with its own texts, and a preview of its description,
which is short and stands in one line. Behind them stand the names that have been unlocked, in the
order of the hits, or that all was known if there are none. -/
theorem search_report (hparse : Catalog.parse text = .ok catalog)
    (hbuild : policy.build catalog = .ok indexed) (hindexed : policy.indexed? = some indexed)
    (hsearch : policy.search request session = .ok outcome) (hfound : outcome.hits ≠ []) :
    let mode := policy.modeOf request
    (outcome.hits.map (·.name)).Nodup ∧
    (∃ ranked found,
      indexed.index.ranking request.query mode (policy.limitOf request) = .ok ranked ∧
      List.Forall₂ (CatalogIndex.Ranks indexed.index (searchableTools catalog) request.query mode)
        ranked found ∧
      outcome.hits = found.map (fun item => ⟨item.tool.name, item.score⟩) ∧
      outcome.text =
        "Found " ++ toString outcome.hits.length ++ " tool(s) matching \"" ++ request.query ++
          "\" (mode: " ++ mode.name ++ "):\n" ++
        String.join (found.mapIdx fun rank item =>
          toString (rank + 1) ++ ". " ++ item.tool.name ++ " (score: " ++
            Decimal.fixed 2 item.score ++ ") - " ++ Text.preview 200 item.tool.description ++
            "\n") ++
        if outcome.unlocked = [] then "\nAll matching tools were already available."
        else "\nNewly unlocked: " ++ ", ".intercalate outcome.unlocked ++
          "\nThese tools can be called from your next step onward.") ∧
    (∀ description, (Text.preview 200 description).length ≤ 200 ∧
      ∀ c ∈ (Text.preview 200 description).toList, Text.isBlank c → c = ' ') ∧
    outcome.unlocked.Sublist (outcome.hits.map (·.name)) ∧
    (SaysAllKnown outcome.text ↔ outcome.unlocked = []) := by
  intro mode
  have hadd := add_of_build hbuild
  obtain ⟨haligned, hentries⟩ := CatalogIndex.aligned_of_add hadd
  have hnames : indexed.index.names.Nodup := by
    rw [CatalogIndex.names, hentries, List.map_map]
    exact nodup_names_searchable hparse
  obtain ⟨hhits, hunlock⟩ := search_ok hsearch
  obtain ⟨ranked, hranked, hranking⟩ := exists_ranking hindexed hhits hfound
  obtain ⟨found, hranks⟩ := CatalogIndex.exists_ranks_of_ranking hadd hranked
  have hmatched := hranking.trans (CatalogIndex.hits_eq_of_ranks hentries hranks)
  refine ⟨?_, ⟨ranked, found, hranked, hranks, hmatched, ?_⟩, fun description => ⟨?_, ?_⟩, ?_,
    saysAllKnown_iff hsearch hfound⟩
  · rw [hranking]
    exact CatalogIndex.nodup_names_hits hnames
      (CatalogIndex.distinct_of_ranking (.add .empty hadd) hranked)
  · obtain ⟨other, hother, hreport⟩ := reportOf_of_hits hhits hfound outcome.unlocked
    obtain rfl : indexed = other := Option.some.inj (hindexed.symm.trans hother)
    have hdescriptions := CatalogIndex.description?_of_ranks haligned hnames hentries hranks
    rw [search_text hsearch, hreport, hmatched, SearchReport.found_eq hdescriptions,
      List.length_map]
    cases outcome.unlocked with
    | nil => rfl
    | cons first rest => rfl
  · exact Text.length_preview_le (by decide) description
  · exact fun c => Text.eq_space_of_mem_preview
  · rw [show outcome.unlocked = _ from (congrArg Prod.snd hunlock).symm]
    exact unlockHits_names_sublist _ _ _

/-- The only tool of a catalog is found, and the report shows its description. -/
theorem search_report_mail :
    ∃ outcome score, Catalog.parse (Catalog.listJson [mailTool]).compact = .ok [mailTool] ∧
      mailPolicy.search { query := "message" } {} = .ok outcome ∧
      outcome.text = "Found 1 tool(s) matching \"message\" (mode: bm25):\n" ++
        ("1. send_mail (score: " ++ Decimal.fixed 2 score ++ ") - " ++ "Sends a message." ++
          "\n") ++
        "\nNewly unlocked: send_mail\nThese tools can be called from your next step onward." := by
  have hexact : Catalog.ExactParameters [mailTool] :=
    List.forall_mem_singleton.mpr Catalog.emptyParameters_exact
  have hparse := Catalog.parse_of_printed ⟨by decide, by decide⟩ hexact (by decide)
  have hbuild : mailPolicy.build [mailTool] = .ok mailCatalog := build_of_fits (by decide)
  obtain ⟨score, hhits⟩ := mailPolicy_hitsOf
  obtain ⟨text, hsearch⟩ := search_of_hitsOf_ok hhits {}
  obtain ⟨-, ⟨ranked, found, -, hranks, hmatched, htext⟩, -⟩ :=
    search_report hparse hbuild rfl hsearch (List.cons_ne_nil _ _)
  obtain ⟨⟨tool, earned⟩, rfl, -⟩ := List.map_eq_singleton_iff.mp hmatched.symm
  obtain rfl : tool = mailTool := by
    cases hranks with
    | cons hfirst _ =>
        have hsearchable := List.mem_of_getElem? hfirst.tool
        exact List.mem_singleton.mp (List.mem_filter.mp hsearchable).1
  refine ⟨_, earned, hparse, hsearch, htext.trans ?_⟩
  have hheader : "Found " ++ toString 1 ++ " tool(s) matching \"" ++ "message" ++ "\" (mode: " ++
      SearchMode.bm25.name ++ "):\n" = "Found 1 tool(s) matching \"message\" (mode: bm25):\n" := by
    decide +kernel
  have hstart : toString 1 ++ ". " ++ mailTool.name ++ " (score: " = "1. send_mail (score: " := by
    decide +kernel
  have hpreview : Text.preview 200 mailTool.description = "Sends a message." := by decide +kernel
  have htrailer : "\nNewly unlocked: " ++ ", ".intercalate [mailTool.name] ++
      "\nThese tools can be called from your next step onward." =
      "\nNewly unlocked: send_mail\nThese tools can be called from your next step onward." := by
    decide +kernel
  rw [← hheader, ← hstart, ← hpreview, ← htrailer]
  exact congrArg (_ ++ · ++ _) String.empty_append

end Policy

end ToolDiscovery
