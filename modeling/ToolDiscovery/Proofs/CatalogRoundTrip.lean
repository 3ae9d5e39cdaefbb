import ToolDiscovery.Catalog.Reading
import ToolDiscovery.Proofs.PrintedValues
import ToolDiscovery.Proofs.Records

/-!
# Catalogs are read back

A catalog that is printed is parsed to the same tools, whether it stands alone or as the member
`tools` of an object, and whatever is parsed as a catalog is printed as one again
(`Catalog.parse_listJson`). The names have to be given and differ in more than the blanks around
them; the parameters are stored values without floating-point numbers.
-/

namespace ToolDiscovery

open Schema (depthOf)

namespace ToolDefinition

open Json (Record Field except_bind_eq_ok)

variable {tool : ToolDefinition} {item : Json}

/-- The canonical form of a definition has its members in ascending order. -/
theorem canonical_toJson (h : tool.parameters.canonical = tool.parameters) :
    tool.toJson.canonical = .object
      [("function", .object [("description", .string tool.description), ("name", .string tool.name),
        ("parameters", tool.parameters)]), ("type", .string "function")] := by
  simp only [toJson, functionJson, Json.canonical, Json.canonicalMembers, h, Json.ofMembers,
    Json.insertMember, List.foldl_cons, List.foldl_nil, String.reduceLT, String.reduceEq, if_true,
    if_false]

/-- A definition is decoded from its canonical form. -/
theorem fromJson_canonical (h : tool.parameters.canonical = tool.parameters) :
    decoder.fromJson tool.toJson.canonical = .ok tool := by
  rw [canonical_toJson h]
  rfl

theorem parameters_of_function (h : functionRecord.decoder.fromJson item = .ok tool) :
    tool.parameters = emptyParameters ∨ tool.parameters ∈ item.parts := by
  -- Only one of the fields changes the parameters of a draft.
  have hstep : ∀ field ∈ functionRecord.fields, ∀ part ∈ item.parts, ∀ update,
      field.decoder.fromJson part = .ok update → ∀ draft : FunctionDraft,
        (∀ parameters ∈ draft.parameters, parameters ∈ item.parts) →
          ∀ parameters ∈ (update draft).parameters, parameters ∈ item.parts := by
    simp only [functionRecord, List.forall_mem_cons, List.not_mem_nil]
    refine ⟨fun part hpart update hread => ?_, fun part hpart update hread => ?_,
      fun part hpart update hread => ?_, nofun⟩
    · obtain ⟨name, rfl⟩ := Field.fromJson_of hread
      exact fun draft hdraft => hdraft
    · obtain ⟨description, rfl⟩ := Field.fromJson_of hread
      exact fun draft hdraft => hdraft
    · cases hread
      rintro draft - _ ⟨⟩
      exact hpart
  obtain ⟨draft, hdraft, hfinish⟩ := Record.draft_of_fromJson nofun hstep h
  cases hname : draft.name with
  | none => simp [functionRecord, hname] at hfinish
  | some name =>
      simp only [functionRecord, hname] at hfinish
      cases hfinish
      cases hparameters : draft.parameters with
      | none => exact .inl rfl
      | some parameters => exact .inr (hdraft parameters hparameters)

/-- The parameters of a definition that is decoded are the default, or stand in the function part of
what it is decoded from. -/
theorem parameters_of_fromJson (h : decoder.fromJson item = .ok tool) :
    tool.parameters = emptyParameters ∨ ∃ part ∈ item.parts, tool.parameters ∈ part.parts := by
  have hstep : ∀ field ∈ record.fields, ∀ part ∈ item.parts, ∀ update,
      field.decoder.fromJson part = .ok update → ∀ draft : Draft,
        (∀ tool ∈ draft.function,
          ∃ part ∈ item.parts, functionRecord.decoder.fromJson part = .ok tool) →
        ∀ tool ∈ (update draft).function,
          ∃ part ∈ item.parts, functionRecord.decoder.fromJson part = .ok tool := by
    simp only [record, List.forall_mem_cons, List.not_mem_nil]
    refine ⟨fun part hpart update hread => ?_, fun part hpart update hread => ?_, nofun⟩
    · obtain ⟨kind, rfl⟩ := Field.fromJson_of hread
      exact fun draft hdraft => hdraft
    · obtain ⟨function, hfunction, hpure⟩ := except_bind_eq_ok.mp hread
      cases hpure
      rintro draft - _ ⟨⟩
      exact ⟨part, hpart, hfunction⟩
  obtain ⟨draft, hdraft, hfinish⟩ := Record.draft_of_fromJson nofun hstep h
  cases hfunction : draft.function with
  | none => simp [record, hfunction] at hfinish
  | some function =>
      simp only [record, hfunction] at hfinish
      cases hfinish
      obtain ⟨part, hpart, hread⟩ := hdraft tool hfunction
      exact (parameters_of_function hread).imp_right fun hmem => ⟨part, hpart, hmem⟩

end ToolDefinition

namespace Catalog

open Json (Everywhere except_bind_eq_ok except_mapError_eq_ok mapM_cons_eq_ok)

variable {tools : List ToolDefinition} {items : List Json}

/-- A catalog in JSON. -/
def listJson (tools : List ToolDefinition) : Json := .array (tools.map ToolDefinition.toJson)

/-- The names of tools without the blanks around them. -/
def trimmedNames (tools : List ToolDefinition) : List String :=
  tools.map fun tool => Text.trim tool.name

/-- No name is blank, and no two names differ in the blanks around them only. -/
structure WellNamed (tools : List ToolDefinition) : Prop where
  given : "" ∉ trimmedNames tools
  distinct : (trimmedNames tools).Nodup

/-- What is refused under a condition succeeds if the condition does not hold. -/
theorem refused_eq_ok {α β ε : Type} {condition : Prop} [Decidable condition] {fault : ε}
    {skipped : α → Except ε β} {rest : Except ε β} {result : β} :
    (if condition then Except.error fault >>= skipped else rest) = .ok result ↔
      ¬condition ∧ rest = .ok result := by
  by_cases h : condition
  · rw [if_pos h]
    exact iff_of_false nofun fun hrest => hrest.1 h
  · rw [if_neg h]
    exact (and_iff_right h).symm

theorem readItems_cons {index : Nat} {seen : List String} {item : Json} :
    readItems index seen (item :: items) = .ok tools ↔
      ∃ tool more, ToolDefinition.decoder.fromJson item = .ok tool ∧
        Text.trim tool.name ≠ "" ∧ Text.trim tool.name ∉ seen ∧
        readItems (index + 1) (Text.trim tool.name :: seen) items = .ok more ∧
        tools = tool :: more := by
  constructor
  · intro h
    obtain ⟨tool, htool, hrest⟩ := except_bind_eq_ok.mp h
    obtain ⟨hgiven, hrest⟩ := refused_eq_ok.mp hrest
    obtain ⟨hfresh, hrest⟩ := refused_eq_ok.mp hrest
    obtain ⟨more, hmore, hpure⟩ := except_bind_eq_ok.mp hrest
    cases hpure
    exact ⟨tool, more, except_mapError_eq_ok.mp htool, by simpa using hgiven, by simpa using hfresh,
      hmore, rfl⟩
  · rintro ⟨tool, more, htool, hgiven, hfresh, hmore, rfl⟩
    refine except_bind_eq_ok.mpr ⟨tool, except_mapError_eq_ok.mpr htool, ?_⟩
    refine refused_eq_ok.mpr ⟨by simpa using hgiven, refused_eq_ok.mpr ⟨by simpa using hfresh, ?_⟩⟩
    exact except_bind_eq_ok.mpr ⟨more, hmore, rfl⟩

theorem wellNamed_cons {tool : ToolDefinition} :
    WellNamed (tool :: tools) ↔ Text.trim tool.name ≠ "" ∧
      Text.trim tool.name ∉ trimmedNames tools ∧ WellNamed tools := by
  constructor
  · rintro ⟨hgiven, hdistinct⟩
    rw [trimmedNames, List.map_cons, List.mem_cons, not_or] at hgiven
    rw [trimmedNames, List.map_cons, List.nodup_cons] at hdistinct
    exact ⟨Ne.symm hgiven.1, hdistinct.1, hgiven.2, hdistinct.2⟩
  · rintro ⟨hname, hfresh, hgiven, hdistinct⟩
    refine ⟨?_, List.nodup_cons.mpr ⟨hfresh, hdistinct⟩⟩
    exact fun hmem => (List.mem_cons.mp hmem).elim (Ne.symm hname) hgiven

/-- Items are read if each of them is a definition and their names are neither blank nor
repeated. -/
theorem readItems_eq_ok {index : Nat} {seen : List String} :
    readItems index seen items = .ok tools ↔
      items.mapM ToolDefinition.decoder.fromJson = .ok tools ∧ WellNamed tools ∧
        ∀ name ∈ trimmedNames tools, name ∉ seen := by
  -- What has been seen grows along the items, and with it what the names must not be.
  induction items generalizing index seen tools with
  | nil =>
      constructor
      · intro h
        cases h
        exact ⟨rfl, ⟨List.not_mem_nil, .nil⟩, nofun⟩
      · rintro ⟨h, -⟩
        cases h
        rfl
  | cons item items ih =>
      rw [readItems_cons, mapM_cons_eq_ok]
      constructor
      · rintro ⟨tool, more, htool, hgiven, hfresh, hmore, rfl⟩
        obtain ⟨hread, hnames, hother⟩ := ih.mp hmore
        have hnot : Text.trim tool.name ∉ trimmedNames more := fun hmem =>
          hother _ hmem List.mem_cons_self
        refine ⟨⟨tool, more, htool, hread, rfl⟩, wellNamed_cons.mpr ⟨hgiven, hnot, hnames⟩,
          fun name hname => ?_⟩
        rcases List.mem_cons.mp hname with rfl | hname
        · exact hfresh
        · exact fun hmem => hother name hname (List.mem_cons_of_mem _ hmem)
      · rintro ⟨⟨tool, more, htool, hmore, rfl⟩, hnames, hother⟩
        obtain ⟨hgiven, hnot, hnames⟩ := wellNamed_cons.mp hnames
        refine ⟨tool, more, htool, hgiven, hother _ List.mem_cons_self,
          ih.mpr ⟨hmore, hnames, fun name hname => ?_⟩, rfl⟩
        rw [List.mem_cons, not_or]
        exact ⟨fun hsame => hnot (hsame ▸ hname), hother name (List.mem_cons_of_mem _ hname)⟩

theorem items_object {members : Json.Members} :
    Catalog.items (.object members) = .ok items ↔ members.lookup "tools" = some (.array items) := by
  unfold Catalog.items
  split
  · rename_i hsame
    cases hsame
  · rename_i hsame
    cases hsame
    split
    · rename_i hlookup
      rw [hlookup]
      simp
    · rename_i hnone
      exact iff_of_false nofun (hnone items)
  · rename_i hobject
    exact absurd rfl (hobject members)

/-- A text is parsed as a catalog if it holds a list of definitions whose names are proper. -/
theorem parse_eq_ok {text : String} : parse text = .ok tools ↔
    ∃ json items, Json.read text = .ok json ∧ Catalog.items json = .ok items ∧
      items.mapM ToolDefinition.decoder.fromJson = .ok tools ∧ WellNamed tools := by
  constructor
  · intro h
    obtain ⟨json, hread, hrest⟩ := except_bind_eq_ok.mp h
    obtain ⟨items, hitems, htools⟩ := except_bind_eq_ok.mp (except_mapError_eq_ok.mp hrest)
    obtain ⟨hdecoded, hnames, -⟩ := readItems_eq_ok.mp htools
    exact ⟨json, items, except_mapError_eq_ok.mp hread, hitems, hdecoded, hnames⟩
  · rintro ⟨json, items, hread, hitems, hdecoded, hnames⟩
    have htools : readItems 0 [] items = .ok tools :=
      readItems_eq_ok.mpr ⟨hdecoded, hnames, fun _ _ => List.not_mem_nil⟩
    exact except_bind_eq_ok.mpr ⟨json, except_mapError_eq_ok.mpr hread,
      except_mapError_eq_ok.mpr (except_bind_eq_ok.mpr ⟨items, hitems, htools⟩)⟩

/-! ## What is printed is parsed -/

/-- The parameters of all tools are stored values without floating-point numbers. -/
def ExactParameters (tools : List ToolDefinition) : Prop :=
  ∀ tool ∈ tools, tool.parameters.Stored ∧ Everywhere (fun json => ¬json.isReal) tool.parameters

theorem canonical_parameters (h : ExactParameters tools) {tool : ToolDefinition}
    (htool : tool ∈ tools) : tool.parameters.canonical = tool.parameters :=
  Json.canonical_eq_self ((h tool htool).1.mono fun _ hstored => hstored.2)

theorem canonical_listJson (tools : List ToolDefinition) :
    (listJson tools).canonical = .array (tools.map fun tool => tool.toJson.canonical) := by
  rw [listJson, Json.canonical_array, List.map_map]
  rfl

theorem mapM_canonical (h : ExactParameters tools) :
    (tools.map fun tool => tool.toJson.canonical).mapM ToolDefinition.decoder.fromJson =
      .ok tools := by
  induction tools with
  | nil => rfl
  | cons tool tools ih =>
      have htool := ToolDefinition.fromJson_canonical (canonical_parameters h List.mem_cons_self)
      have hmore := ih fun other hother => h other (List.mem_cons_of_mem _ hother)
      exact mapM_cons_eq_ok.mpr ⟨tool, tools, htool, hmore, rfl⟩

theorem exact_toJson {tool : ToolDefinition} (h : Everywhere Json.Exact tool.parameters) :
    Everywhere Json.Exact tool.toJson := by
  have hobject (members : Json.Members) : (Json.object members).Exact := ⟨trivial, nofun⟩
  have hstring (text : String) : Everywhere Json.Exact (.string text) :=
    .of_no_parts ⟨trivial, nofun⟩ rfl
  simp only [ToolDefinition.toJson, ToolDefinition.functionJson, Everywhere.object_iff,
    List.forall_mem_cons, List.not_mem_nil]
  exact ⟨hobject _, hstring _, ⟨hobject _, hstring _, hstring _, h, nofun⟩, nofun⟩

theorem exact_listJson (h : ExactParameters tools) : Everywhere Json.Exact (listJson tools) := by
  refine .intro ⟨trivial, nofun⟩ fun item hitem => ?_
  obtain ⟨tool, htool, rfl⟩ := List.mem_map.mp hitem
  obtain ⟨hstored, hreal⟩ := h tool htool
  exact exact_toJson ((hstored.and hreal).mono fun _ hboth => ⟨hboth.1.1, hboth.2⟩)

/-- Three brackets stand around the parameters of a tool in a catalog. -/
theorem depthOf_listJson_lt (h : ∀ tool ∈ tools, depthOf tool.parameters + 3 < Json.maxDepth) :
    depthOf (listJson tools) < Json.maxDepth := by
  refine Nat.lt_succ_of_le (Json.depthOf_le_iff.mpr fun item hitem => ?_)
  obtain ⟨tool, htool, rfl⟩ := List.mem_map.mp hitem
  have hparameters := h tool htool
  simp only [ToolDefinition.toJson, ToolDefinition.functionJson, depthOf, Schema.depthOfMembers]
  unfold Json.maxDepth at hparameters
  omega

/-- A list of tools that is printed is parsed, unless its brackets are nested too deep. -/
theorem parse_of_printed (hnames : WellNamed tools) (hexact : ExactParameters tools)
    (hdepth : ∀ tool ∈ tools, depthOf tool.parameters + 3 < Json.maxDepth) :
    parse (listJson tools).compact = .ok tools := by
  have hread := Json.read_compact (exact_listJson hexact) (depthOf_listJson_lt hdepth)
  rw [canonical_listJson] at hread
  exact parse_eq_ok.mpr ⟨_, _, hread, rfl, mapM_canonical hexact, hnames⟩

/-! ## What is parsed is printed -/

theorem mem_of_mapM {tool : ToolDefinition}
    (h : items.mapM ToolDefinition.decoder.fromJson = .ok tools) (htool : tool ∈ tools) :
    ∃ item ∈ items, ToolDefinition.decoder.fromJson item = .ok tool := by
  induction items generalizing tools with
  | nil =>
      cases h
      cases htool
  | cons item items ih =>
      obtain ⟨first, more, hfirst, hmore, rfl⟩ := mapM_cons_eq_ok.mp h
      rcases List.mem_cons.mp htool with rfl | htool
      · exact ⟨item, List.mem_cons_self, hfirst⟩
      · obtain ⟨other, hother, hdecoded⟩ := ih hmore htool
        exact ⟨other, List.mem_cons_of_mem _ hother, hdecoded⟩

/-- The items of a catalog are stored and lie inside of at least one bracket. -/
theorem stored_of_items {json item : Json} (h : Catalog.items json = .ok items)
    (hstored : json.Stored) (hitem : item ∈ items) :
    item.Stored ∧ depthOf item < depthOf json := by
  cases json with
  | array list =>
      cases h
      exact ⟨hstored.part hitem, Json.depthOf_part_lt hitem⟩
  | object members =>
      have hlist : .array items ∈ (Json.object members).parts :=
        List.mem_map.mpr ⟨_, Json.mem_of_lookup (items_object.mp h), rfl⟩
      have hdepth := Json.depthOf_part_lt hlist
      have hitemDepth : depthOf item < depthOf (.array items) := Json.depthOf_part_lt hitem
      exact ⟨(hstored.part hlist).part hitem, Nat.lt_trans hitemDepth hdepth⟩
  | null | boolean | integer | real | string => cases h

theorem emptyParameters_exact : ToolDefinition.emptyParameters.Stored ∧
    Everywhere (fun json => ¬json.isReal) ToolDefinition.emptyParameters := by
  simp only [Json.Stored, ToolDefinition.emptyParameters, Everywhere.object_iff,
    List.forall_mem_cons, List.not_mem_nil]
  exact ⟨⟨⟨trivial, .cons (by decide) (.cons nofun .nil)⟩, ⟨⟨trivial, .nil⟩, nofun⟩,
      .of_no_parts ⟨trivial, trivial⟩ rfl, nofun⟩,
    nofun, ⟨nofun, nofun⟩, .of_no_parts nofun rfl, nofun⟩

/-- The parameters of the tools of a catalog are stored, and three brackets stand around them. -/
theorem parameters_of_parse {text : String} (h : parse text = .ok tools) {tool : ToolDefinition}
    (htool : tool ∈ tools) :
    tool.parameters.Stored ∧ depthOf tool.parameters + 3 < Json.maxDepth := by
  obtain ⟨json, items, hread, hitems, hdecoded, -⟩ := parse_eq_ok.mp h
  obtain ⟨hstored, hdepth⟩ := Json.stored_of_read hread
  obtain ⟨item, hitem, htool⟩ := mem_of_mapM hdecoded htool
  obtain ⟨hitemStored, hitemDepth⟩ := stored_of_items hitems hstored hitem
  rcases ToolDefinition.parameters_of_fromJson htool with hempty | ⟨part, hpart, hparameters⟩
  · rw [hempty]
    exact ⟨emptyParameters_exact.1, by decide⟩
  · have hpartDepth := Json.depthOf_part_lt hpart
    have hparametersDepth := Json.depthOf_part_lt hparameters
    exact ⟨(hitemStored.part hpart).part hparameters, by omega⟩

/-- A catalog that is printed is parsed to the same tools if its brackets are not nested too deep,
and so is each object with that catalog as its member `tools`. Whatever has been parsed is printed
as a catalog that is parsed to the same tools. -/
theorem parse_listJson :
    (∀ tools, WellNamed tools → ExactParameters tools →
      (parse (listJson tools).compact = .ok tools ↔
        ∀ tool ∈ tools, depthOf tool.parameters + 3 < Json.maxDepth) ∧
      ∀ text members, Json.read text = .ok (.object members) →
        members.lookup "tools" = some (listJson tools).canonical → parse text = .ok tools) ∧
    ∀ text tools, parse text = .ok tools →
      (∀ tool ∈ tools, Everywhere (fun json => ¬json.isReal) tool.parameters) →
        parse (listJson tools).compact = .ok tools := by
  constructor
  · intro tools hnames hexact
    refine ⟨⟨fun hparse tool htool => ?_, parse_of_printed hnames hexact⟩, ?_⟩
    · exact (parameters_of_parse hparse htool).2
    · intro text members hread hlookup
      rw [canonical_listJson] at hlookup
      exact parse_eq_ok.mpr
        ⟨_, _, hread, items_object.mpr hlookup, mapM_canonical hexact, hnames⟩
  · intro text tools hparse hreal
    obtain ⟨-, -, -, -, -, hnames⟩ := parse_eq_ok.mp hparse
    have hstored (tool : ToolDefinition) (htool : tool ∈ tools) := parameters_of_parse hparse htool
    exact parse_of_printed hnames (fun tool htool => ⟨(hstored tool htool).1, hreal tool htool⟩)
      fun tool htool => (hstored tool htool).2

/-- Two tools, one of them with a name that has blanks around it. -/
def lampTools : List ToolDefinition :=
  [{ name := "lamp", description := "Says \"on\".\n",
     parameters := .object [("maximum", .integer 18446744073709551615), ("title", .string "é")] },
    { name := " dim ", description := "", parameters := .array [.null, .integer (-1)] }]

theorem exactParameters_lampTools : ExactParameters lampTools := by
  have hleaf {p : Json → Prop} {json : Json} (h : p json) (hparts : json.parts = []) :
      Everywhere p json := .of_no_parts h hparts
  simp only [ExactParameters, lampTools, Json.Stored, Everywhere.object_iff, Everywhere.array_iff,
    List.forall_mem_cons, List.not_mem_nil]
  refine ⟨⟨⟨⟨trivial, ?_⟩, ?_, ?_, nofun⟩, nofun, ?_, ?_, nofun⟩,
    ⟨⟨⟨trivial, trivial⟩, ?_, ?_, nofun⟩, nofun, ?_, ?_, nofun⟩, nofun⟩
  · exact .cons (by decide) (.cons nofun .nil)
  · exact hleaf ⟨⟨by decide, by decide⟩, trivial⟩ rfl
  · exact hleaf ⟨trivial, trivial⟩ rfl
  · exact hleaf nofun rfl
  · exact hleaf nofun rfl
  · exact hleaf ⟨trivial, trivial⟩ rfl
  · exact hleaf ⟨⟨by decide, by decide⟩, trivial⟩ rfl
  · exact hleaf nofun rfl
  · exact hleaf nofun rfl

theorem parse_listJson_lampTools :
    WellNamed lampTools ∧ ExactParameters lampTools ∧
      parse (listJson lampTools).compact = .ok lampTools ∧
      parse (Json.object [("version", .integer 2), ("tools", listJson lampTools)]).compact =
        .ok lampTools := by
  have hnames : WellNamed lampTools := ⟨by decide, by decide⟩
  have hexact := exactParameters_lampTools
  have hdepth : ∀ tool ∈ lampTools, depthOf tool.parameters + 3 < Json.maxDepth := by decide
  obtain ⟨hlist, hobject⟩ := parse_listJson.1 lampTools hnames hexact
  refine ⟨hnames, hexact, hlist.mpr hdepth, hobject _ _ (Json.read_compact ?_ (by decide)) ?_⟩
  · exact Everywhere.object_iff.mpr ⟨⟨trivial, nofun⟩, by
      simp only [List.forall_mem_cons, List.not_mem_nil]
      exact ⟨.of_no_parts ⟨⟨by decide, by decide⟩, nofun⟩ rfl, exact_listJson hexact, nofun⟩⟩
  · rfl

end Catalog

end ToolDiscovery
