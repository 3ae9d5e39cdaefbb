import ToolDiscovery.Proofs.HybridFusion

/-!
# An index that is made in several batches

The tools of a catalog, the positions of their names and the documents of their texts are kept side
by side. `Aligned` says how they belong together; adding a tool keeps them so, and therefore any
batches do. Batches that are refused change nothing, and it does not matter how the others were
divided: `index_of_batches`.
-/

namespace ToolDiscovery

namespace CatalogIndex

/-- The index that a batch leaves behind, whether it is refused or not. -/
def after (index : CatalogIndex) (batch : List ToolDefinition) : CatalogIndex :=
  (extend batch).leaves index

/-- The index after several batches. -/
def afterAll (index : CatalogIndex) (batches : List (List ToolDefinition)) : CatalogIndex :=
  batches.foldl after index

/-- The batches that are not refused, when they come one after the other. -/
def accepted (index : CatalogIndex) : List (List ToolDefinition) → List (List ToolDefinition)
  | [] => []
  | batch :: rest =>
    match index.add batch with
    | .ok next => batch :: next.accepted rest
    | .error _ => index.accepted rest

/-- The positions that a search finds, with their scores. -/
def ranking (index : CatalogIndex) (query : String) (mode : SearchMode) (limit : Nat) :
    Except DiscoveryError (List (Scored Float)) :=
  match mode with
  | .bm25 => .ok (index.rankWords query limit)
  | .regex => (compilePattern query).map fun pattern => index.rankPattern pattern limit
  | .hybrid => (compilePattern query).map fun pattern => index.rankHybrid query pattern limit

/-- A name stands at a position of a list, and nowhere after it. -/
def StandsLastAt (names : List String) (name : String) (position : Nat) : Prop :=
  names[position]? = some name ∧ ∀ later, position < later → names[later]? ≠ some name

/-- The parts of an index belong together. -/
structure Aligned (index : CatalogIndex) : Prop where
  /-- There is one document for each tool, in the same order. -/
  corpus : index.corpus = Corpus.add {} (index.entries.toList.map (·.document))
  /-- A name has the position of the last tool with that name. -/
  positions : ∀ name position,
    index.positions[name]? = some position ↔ StandsLastAt index.names name position

variable {index next : CatalogIndex} {tools batch : List ToolDefinition} {name query : String}
  {position limit : Nat} {mode : SearchMode} {ranked : List (Scored Float)}

/-! ## Adding tools -/

theorem names_length (index : CatalogIndex) : index.names.length = index.size := by
  rw [names, List.length_map, Array.length_toList]
  rfl

theorem names_push (index : CatalogIndex) (entry : IndexEntry) :
    (index.push entry).names = index.names ++ [entry.name] := by
  show (index.entries.push entry).toList.map (·.name) = _
  rw [Array.toList_push, List.map_append]
  rfl

theorem entries_pushAll (index : CatalogIndex) (tools : List ToolDefinition) :
    (index.pushAll tools).entries.toList = index.entries.toList ++ tools.map .ofDefinition := by
  induction tools generalizing index with
  | nil => exact (List.append_nil _).symm
  | cons tool rest ih =>
      have hpush : (index.push (.ofDefinition tool)).entries.toList =
          index.entries.toList ++ [.ofDefinition tool] := Array.toList_push
      show ((index.push (.ofDefinition tool)).pushAll rest).entries.toList = _
      rw [ih, hpush, List.append_assoc]
      rfl

theorem size_pushAll (index : CatalogIndex) (tools : List ToolDefinition) :
    (index.pushAll tools).size = index.size + tools.length := by
  show (index.pushAll tools).entries.size = index.entries.size + tools.length
  rw [← Array.length_toList, entries_pushAll, List.length_append, List.length_map,
    Array.length_toList]

theorem names_pushAll (index : CatalogIndex) (tools : List ToolDefinition) :
    (index.pushAll tools).names = index.names ++ tools.map (·.name) := by
  rw [names, entries_pushAll, List.map_append, List.map_map]
  rfl

/-! ## What adding keeps -/

theorem aligned_empty : Aligned {} where
  corpus := rfl
  positions name position := by
    have hnone : ({} : CatalogIndex).positions[name]? = none := Std.TreeMap.getElem?_emptyc
    rw [hnone]
    simp [StandsLastAt, names]

/-- A name that is added stands last at the end. Where all others stand last does not change. -/
theorem standsLastAt_append_singleton {names : List String} {added : String} :
    StandsLastAt (names ++ [added]) name position ↔
      if added = name then position = names.length else StandsLastAt names name position := by
  unfold StandsLastAt
  by_cases hname : added = name
  · subst hname
    rw [if_pos rfl]
    constructor
    · rintro ⟨hat, hlater⟩
      have hlt : position < (names ++ [added]).length := (List.getElem?_eq_some_iff.mp hat).1
      rw [List.length_append, List.length_singleton] at hlt
      -- If it stood before the end, the end would be a later place.
      by_contra hne
      exact hlater names.length (by omega) List.getElem?_concat_length
    · rintro rfl
      refine ⟨List.getElem?_concat_length, fun later hlt hat => ?_⟩
      have hbound : later < (names ++ [added]).length := (List.getElem?_eq_some_iff.mp hat).1
      rw [List.length_append, List.length_singleton] at hbound
      omega
  · rw [if_neg hname]
    -- What is added is another name, so the end counts for nothing.
    have hat (place : Nat) :
        (names ++ [added])[place]? = some name ↔ names[place]? = some name := by
      rcases Nat.lt_trichotomy place names.length with hlt | rfl | hgt
      · rw [List.getElem?_append_left hlt]
      · rw [List.getElem?_concat_length, List.getElem?_eq_none (Nat.le_refl _)]
        simp [hname]
      · rw [List.getElem?_eq_none (by simp; omega), List.getElem?_eq_none (by omega)]
    simp only [hat, ne_eq]

theorem exists_standsLastAt {names : List String} :
    (∃ position, StandsLastAt names name position) ↔ name ∈ names := by
  induction names using List.reverseRecOn with
  | nil => simp [StandsLastAt]
  | append_singleton names added ih =>
      simp only [standsLastAt_append_singleton, List.mem_append, List.mem_singleton]
      by_cases hname : added = name
      · simp [hname]
      · simp [hname, ih, Ne.symm hname]

theorem Aligned.push (h : Aligned index) (entry : IndexEntry) : Aligned (index.push entry) where
  corpus := by
    have hentries : (index.push entry).entries.toList = index.entries.toList ++ [entry] :=
      Array.toList_push
    show index.corpus.add [entry.document] = _
    rw [hentries, List.map_append, Corpus.add_append, ← h.corpus]
    rfl
  positions name position := by
    show (index.positions.insert entry.name index.size)[name]? = some position ↔ _
    rw [Std.TreeMap.getElem?_insert, names_push, standsLastAt_append_singleton, names_length]
    by_cases hname : entry.name = name
    · simp [hname, eq_comm]
    · simp [hname, h.positions]

theorem Aligned.pushAll (h : Aligned index) (tools : List ToolDefinition) :
    Aligned (index.pushAll tools) := by
  induction tools generalizing index with
  | nil => exact h
  | cons tool rest ih => exact ih (h.push (.ofDefinition tool))

/-- The parts of every index that has been made by adding tools belong together. -/
theorem Built.aligned (h : Built index) : Aligned index := by
  induction h with
  | empty => exact aligned_empty
  | add h hadd ih => exact ((add_eq_ok h.current).mp hadd).2 ▸ ih.pushAll _

theorem Built.size_le (h : Built index) : index.size ≤ maxTools := by
  cases h with
  | empty => exact Nat.zero_le _
  | add h hadd =>
      obtain ⟨hle, rfl⟩ := (add_eq_ok h.current).mp hadd
      rw [size_pushAll]
      exact hle

theorem after_of_le (h : Built index) (hle : index.size + batch.length ≤ maxTools) :
    index.after batch = index.pushAll batch :=
  Change.leaves_of_ok (extend_of_le h.current hle)

theorem after_of_lt (h : maxTools < index.size + batch.length) : index.after batch = index :=
  Change.leaves_of_error (extend_of_lt h)

/-- A batch is accepted or refused, and an index is left behind in either case. -/
theorem Built.after (h : Built index) (batch : List ToolDefinition) :
    Built (index.after batch) := by
  by_cases hle : index.size + batch.length ≤ maxTools
  · rw [after_of_le h hle]
    exact h.add (add_of_le h.current hle)
  · rw [after_of_lt (Nat.lt_of_not_le hle)]
    exact h

theorem Built.afterAll (h : Built index) (batches : List (List ToolDefinition)) :
    Built (index.afterAll batches) := by
  induction batches generalizing index with
  | nil => exact h
  | cons batch rest ih => exact ih (h.after batch)

/-! ## Looking up names and positions -/

/-- The documents of an index are those of its tools. -/
theorem Aligned.documents (h : Aligned index) :
    index.corpus.documents.toList =
      index.entries.toList.map fun entry => .ofText entry.document := by
  rw [h.corpus, (Corpus.Describes.of_add _).counts.documents, List.map_map]
  rfl

/-- A name is known if a tool has it. -/
theorem Aligned.contains_iff (h : Aligned index) : index.contains name ↔ name ∈ index.names := by
  rw [contains, ← Std.TreeMap.isSome_getElem?_eq_contains, Option.isSome_iff_exists,
    ← exists_standsLastAt]
  exact exists_congr fun position => h.positions name position

/-- The description of a name is that of the last tool with that name. -/
theorem Aligned.description?_eq (h : Aligned index)
    (hlast : StandsLastAt index.names name position) :
    index.description? name = index.entries[position]?.map (·.description) := by
  have hposition := (h.positions name position).mpr hlast
  unfold description?
  rw [hposition]
  cases hentry : index.entries[position]? with
  | none => simp [hentry]
  | some entry => simp [hentry]

/-- A ranking that needs a pattern is made with the expression that is searched for. -/
theorem eq_of_map_compilePattern {rank : Pattern.Expr → List (Scored Float)}
    (h : (compilePattern query).map rank = .ok ranked) : ranked = rank (.compile query) := by
  unfold compilePattern at h
  split at h
  · cases h
  · exact (Except.ok.inj h).symm

/-- What a search finds is one of the three rankings. -/
theorem ranking_ok (h : index.ranking query mode limit = .ok ranked) :
    ranked = index.rankWords query limit ∨ ranked = index.rankPattern (.compile query) limit ∨
      ranked = index.rankHybrid query (.compile query) limit := by
  unfold ranking at h
  cases mode with
  | bm25 => exact .inl (Except.ok.inj h).symm
  | regex => exact .inr (.inl (eq_of_map_compilePattern h))
  | hybrid => exact .inr (.inr (eq_of_map_compilePattern h))

/-- All positions that a search finds are positions of tools. -/
theorem lt_size_of_mem_ranking (hbuilt : Built index)
    (h : index.ranking query mode limit = .ok ranked) : ∀ s ∈ ranked, s.position < index.size := by
  intro s hs
  obtain rfl | rfl | rfl := ranking_ok h
  · exact lt_size_of_wordScore? hbuilt (mem_answers.mp (Scored.mem_of_mem_best hs))
  · exact lt_size_of_patternScore? (mem_patternMatches.mp (Scored.mem_of_mem_best hs))
  · rw [rankHybrid_eq hbuilt] at hs
    exact (mem_fuse.mp (Scored.mem_of_mem_best hs)).1

/-- A search gives the hits at the positions that it finds. -/
theorem search_eq_ranking (index : CatalogIndex) (query : String) (mode : SearchMode)
    (limit : Nat) :
    index.search query mode limit = (index.ranking query mode limit).map index.hits := by
  cases mode with
  | bm25 => rfl
  | regex =>
      unfold search searchPattern ranking
      cases compilePattern query with
      | error error => rfl
      | ok pattern => rfl
  | hybrid =>
      unfold search ranking
      cases compilePattern query with
      | error error => rfl
      | ok pattern => rfl

/-- No position of a tool is lost in the hits. -/
theorem hits_length (h : ∀ s ∈ ranked, s.position < index.size) :
    (index.hits ranked).length = ranked.length := by
  rw [hits, List.length_filterMap_eq_countP, List.countP_eq_length]
  intro s hs
  have hentry : index.entries[s.position]? = some _ := Array.getElem?_eq_getElem (h s hs)
  rw [hentry]
  rfl

/-! ## Any batches -/

/-- The batches that are not refused make the same index all at once. -/
theorem afterAll_eq_pushAll (h : Built index) (batches : List (List ToolDefinition)) :
    index.afterAll batches = index.pushAll (index.accepted batches).flatten := by
  induction batches generalizing index with
  | nil => rfl
  | cons batch rest ih =>
      show (index.after batch).afterAll rest = _
      by_cases hle : index.size + batch.length ≤ maxTools
      · have hadd : index.add batch = .ok (index.pushAll batch) := add_of_le h.current hle
        rw [after_of_le h hle, ih (h.add hadd), accepted, hadd, List.flatten_cons, pushAll_append]
      · have hadd := add_of_lt (Nat.lt_of_not_le hle)
        rw [after_of_lt (Nat.lt_of_not_le hle), ih h, accepted, hadd]

/-- Whatever batches come, an index refuses those that would make it too large, and stays as it is
then. Otherwise it is the index of all accepted batches at once, so that no operation can tell how
they were divided. Its tools are those of the accepted batches, with one document for each of them;
a name belongs to the last tool that has it; and what a search finds are tools. -/
theorem index_of_batches (batches : List (List ToolDefinition)) :
    let now := afterAll {} batches
    (∀ batch error, now.add batch = .error error ↔
      maxTools < now.size + batch.length ∧
        error = .catalogTooLarge (now.size + batch.length) maxTools) ∧
    (∀ batch error, now.add batch = .error error → now.after batch = now) ∧
    CatalogIndex.add {} (accepted {} batches).flatten = .ok now ∧
    now.entries.toList = (accepted {} batches).flatten.map .ofDefinition ∧
    now.corpus.documents.size = now.size ∧
    (∀ (position : Nat) entry, now.entries[position]? = some entry →
      now.corpus.documents[position]? = some (.ofText entry.document)) ∧
    (∀ name position, now.positions[name]? = some position ↔
      StandsLastAt now.names name position) ∧
    (∀ name, now.contains name ↔ name ∈ now.names) ∧
    (∀ name position, StandsLastAt now.names name position →
      now.description? name = now.entries[position]?.map (·.description)) ∧
    ∀ query mode limit ranked, now.ranking query mode limit = .ok ranked →
      (∀ s ∈ ranked, s.position < now.size) ∧
        now.search query mode limit = .ok (now.hits ranked) ∧
        (now.hits ranked).length = ranked.length := by
  intro now
  have hbuilt : Built now := Built.empty.afterAll batches
  have haligned : Aligned now := hbuilt.aligned
  have hnow : now = pushAll {} (accepted {} batches).flatten :=
    afterAll_eq_pushAll .empty batches
  have hentries : now.entries.toList = (accepted {} batches).flatten.map .ofDefinition := by
    rw [hnow, entries_pushAll]
    rfl
  refine ⟨fun batch error => add_eq_error hbuilt.current, fun batch error hrefused =>
    after_of_lt ((add_eq_error hbuilt.current).mp hrefused).1, ?_, hentries,
    hbuilt.documents_size, fun position entry hentry => ?_, haligned.positions,
    fun name => haligned.contains_iff, fun name position => haligned.description?_eq,
    fun query mode limit ranked hranked => ?_⟩
  · rw [hnow]
    refine add_of_le Corpus.current_empty ?_
    have hsize : now.size = ({} : CatalogIndex).size + (accepted {} batches).flatten.length := by
      rw [hnow, size_pushAll]
    rw [← hsize]
    exact hbuilt.size_le
  · rw [← Array.getElem?_toList, haligned.documents, List.getElem?_map, Array.getElem?_toList,
      hentry]
    rfl
  · have hvalid := lt_size_of_mem_ranking hbuilt hranked
    refine ⟨hvalid, ?_, hits_length hvalid⟩
    rw [search_eq_ranking, hranked]
    rfl

/-- Between two batches that have a name in common one is refused. The name belongs to the later
tool. -/
theorem index_of_batches_between_refusals :
    let large := List.replicate (maxTools + 1) (namedTool "log")
    let mail : ToolDefinition := { namedTool "mail" with description := "Sends a message." }
    let now := afterAll {} [[namedTool "mail"], large, [mail, namedTool "log"]]
    CatalogIndex.add {} [namedTool "mail", mail, namedTool "log"] = .ok now ∧
      now.names = ["mail", "mail", "log"] ∧ now.positions["mail"]? = some 1 ∧
      now.description? "mail" = some "Sends a message." := by
  intro large mail now
  have hfirst : CatalogIndex.add {} [namedTool "mail"] = .ok (pushAll {} [namedTool "mail"]) :=
    add_of_le Corpus.current_empty (by decide)
  have hrefused : (pushAll {} [namedTool "mail"]).add large =
      .error (.catalogTooLarge (1 + (maxTools + 1)) maxTools) := by
    have hlength : large.length = maxTools + 1 := List.length_replicate
    rw [add_of_lt (by rw [hlength, size_pushAll]; omega), hlength, size_pushAll]
    rfl
  have hsecond : (pushAll {} [namedTool "mail"]).add [mail, namedTool "log"] =
      .ok ((pushAll {} [namedTool "mail"]).pushAll [mail, namedTool "log"]) :=
    add_of_le (current_pushAll Corpus.current_empty _) (by decide)
  have haccepted : (accepted {} [[namedTool "mail"], large, [mail, namedTool "log"]]).flatten =
      [namedTool "mail", mail, namedTool "log"] := by
    simp only [accepted, hfirst, hrefused, hsecond]
    rfl
  obtain ⟨-, -, hadd, hentries, -, -, hpositions, -, hdescription, -⟩ :=
    index_of_batches [[namedTool "mail"], large, [mail, namedTool "log"]]
  rw [haccepted] at hadd hentries
  have hnames : now.names = ["mail", "mail", "log"] := by
    rw [names, hentries]
    rfl
  have hlast : StandsLastAt now.names "mail" 1 := by
    rw [hnames]
    refine ⟨rfl, fun later hlt hat => ?_⟩
    have hbound : later < 3 := (List.getElem?_eq_some_iff.mp hat).1
    obtain rfl : later = 2 := by omega
    exact absurd (Option.some.inj hat) (by decide)
  refine ⟨hadd, hnames, (hpositions "mail" 1).mpr hlast, ?_⟩
  rw [hdescription "mail" 1 hlast, ← Array.getElem?_toList, hentries]
  rfl

end CatalogIndex

end ToolDiscovery
