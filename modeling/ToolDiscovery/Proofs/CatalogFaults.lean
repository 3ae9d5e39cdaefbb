import Mathlib.Data.List.Forall2
import ToolDiscovery.Proofs.CatalogRoundTrip

/-!
# Catalogs that are refused

The items of a catalog are read one after the other. `FaultAt` says what can be wrong with the item
at an index, given those before it, and `Reached` what is known when that item is reached; an item
without a fault keeps it so. Reading therefore stops at the first item that has a fault, whatever
stands behind it. `Catalog.parse_outcome` says which texts are parsed, and what is wrong with the
others.
-/

namespace ToolDiscovery

namespace Json

/-- The value of a field of a record, which is written as an object or as a list of its fields. -/
def field? (name : String) (place : Nat) : Json → Option Json
  | object members => members.lookup name
  | array items => items[place]?
  | _ => none

/-- A field is read from the value that stands for it. -/
theorem Record.Takes.field?_eq {δ α : Type} {record : Record δ α} {json part : Json}
    {field : Field δ} {place : Nat} (h : record.Takes json field part) (hordered : json.Ordered)
    (hnames : (record.fields.map (·.name)).Nodup) (hplace : record.fields[place]? = some field) :
    json.field? field.name place = some part := by
  cases h with
  | @member members _ _ hfield hpart =>
      have hkeys : (members.map (·.1)).Nodup := hordered.imp fun hlt => String.ne_of_lt hlt
      exact lookup_of_mem hpart (List.nodup_iff_count_le_one.mp hkeys _)
  | @item items other _ _ hfield hpart =>
      have hlt : place < record.fields.length := (List.getElem?_eq_some_iff.mp hplace).1
      have hsame : place = other :=
        (List.getElem?_inj hlt hnames.of_map).mp (hplace.trans hfield.symm)
      exact hsame ▸ hpart

end Json

namespace ToolDefinition

open Json (Record Field Decoder except_bind_eq_ok)

variable {tool : ToolDefinition} {item : Json}

/-- The value that is written as the name of a tool. -/
def writtenName? (item : Json) : Option Json :=
  (item.field? "function" 1).bind (·.field? "name" 0)

theorem field?_of_function (hordered : item.Ordered)
    (h : functionRecord.decoder.fromJson item = .ok tool) :
    item.field? "name" 0 = some (.string tool.name) := by
  -- Only one of the fields changes the name of a draft.
  have hstep : ∀ field part, functionRecord.Takes item field part → ∀ update,
      field.decoder.fromJson part = .ok update → ∀ draft : FunctionDraft,
        (∀ name ∈ draft.name, item.field? "name" 0 = some (.string name)) →
          ∀ name ∈ (update draft).name, item.field? "name" 0 = some (.string name) := by
    intro field part htakes update hread draft hdraft
    have hfield := htakes.mem.1
    simp only [functionRecord, List.mem_cons, List.not_mem_nil, or_false] at hfield
    rcases hfield with rfl | rfl | rfl
    · have hpart : item.field? "name" 0 = some part :=
        htakes.field?_eq hordered (by decide) rfl
      obtain ⟨name, hname, hpure⟩ := except_bind_eq_ok.mp hread
      cases hpure
      rintro _ ⟨⟩
      rw [hpart, Decoder.string_fromJson.mp hname]
    · obtain ⟨description, rfl⟩ := Field.fromJson_of hread
      exact hdraft
    · obtain ⟨parameters, rfl⟩ := Field.fromJson_of hread
      exact hdraft
  obtain ⟨draft, hdraft, hfinish⟩ :=
    Record.draft_of_takes (fun _ hnone => absurd hnone (Option.not_mem_none _)) hstep h
  cases hname : draft.name with
  | none => simp [functionRecord, hname] at hfinish
  | some name =>
      simp only [functionRecord, hname] at hfinish
      cases hfinish
      exact hdraft name hname

/-- The name of a definition that is decoded is what is written, with all blanks around it. -/
theorem writtenName?_of_fromJson (hstored : item.Stored) (h : decoder.fromJson item = .ok tool) :
    writtenName? item = some (.string tool.name) := by
  have hstep : ∀ field part, record.Takes item field part → ∀ update,
      field.decoder.fromJson part = .ok update → ∀ draft : Draft,
        (∀ tool ∈ draft.function, writtenName? item = some (.string tool.name)) →
          ∀ tool ∈ (update draft).function, writtenName? item = some (.string tool.name) := by
    intro field part htakes update hread draft hdraft
    have hfield := htakes.mem.1
    simp only [record, List.mem_cons, List.not_mem_nil, or_false] at hfield
    rcases hfield with rfl | rfl
    · obtain ⟨kind, rfl⟩ := Field.fromJson_of hread
      exact hdraft
    · have hpart : item.field? "function" 1 = some part :=
        htakes.field?_eq hstored.here.2 (by decide) rfl
      obtain ⟨function, hfunction, hpure⟩ := except_bind_eq_ok.mp hread
      cases hpure
      rintro _ ⟨⟩
      have hordered : part.Ordered := (hstored.part htakes.mem.2).here.2
      rw [writtenName?, hpart]
      exact field?_of_function hordered hfunction
  obtain ⟨draft, hdraft, hfinish⟩ :=
    Record.draft_of_takes (fun _ hnone => absurd hnone (Option.not_mem_none _)) hstep h
  cases hfunction : draft.function with
  | none => simp [record, hfunction] at hfinish
  | some function =>
      simp only [record, hfunction] at hfinish
      cases hfinish
      exact hdraft tool hfunction

end ToolDefinition

namespace Catalog

open Json (except_bind_eq_ok except_mapError_eq_ok mapM_eq_ok)

variable {tools : List ToolDefinition} {json item : Json} {items : List Json}
  {fault other : CatalogFault} {index place : Nat} {name : String} {seen : List String}

/-! ## The list of items -/

/-- A value is a list of items, or an object that has one as its member `tools`. -/
inductive ListsTools : Json → List Json → Prop where
  | list (items : List Json) : ListsTools (.array items) items
  | member {members : Json.Members} {items : List Json}
      (h : members.lookup "tools" = some (.array items)) : ListsTools (.object members) items

/-- What is wrong with a value that has no list of items. -/
def shapeFault : Json → CatalogFault
  | .object _ => .noToolList
  | _ => .notAList

theorem items_eq_ok : Catalog.items json = .ok items ↔ ListsTools json items := by
  cases json with
  | array list =>
      constructor
      · intro h
        cases h
        exact .list items
      · rintro ⟨⟩
        rfl
  | object members =>
      rw [items_object]
      constructor
      · exact .member
      · rintro ⟨⟩
        assumption
  | null | boolean | integer | real | string => exact iff_of_false nofun nofun

/-- A value without a list of items has one fault. -/
theorem items_cases (json : Json) :
    (∃ items, Catalog.items json = .ok items) ∨ Catalog.items json = .error (shapeFault json) := by
  cases json with
  | array items => exact .inl ⟨items, rfl⟩
  | object members =>
      cases hlookup : members.lookup "tools" with
      | none =>
          refine .inr ?_
          simp only [Catalog.items, hlookup]
          rfl
      | some list =>
          cases list with
          | array items => exact .inl ⟨items, items_object.mpr hlookup⟩
          | null | boolean | integer | real | string | object =>
              refine .inr ?_
              simp only [Catalog.items, hlookup]
              rfl
  | null | boolean | integer | real | string => exact .inr rfl

/-! ## Faults of items -/

/-- The item at an index is a definition that has the given name, without the blanks around it. -/
def NamedAt (items : List Json) (index : Nat) (name : String) : Prop :=
  ∃ item tool, items[index]? = some item ∧ ToolDefinition.decoder.fromJson item = .ok tool ∧
    Text.trim tool.name = name

/-- What can be wrong with the item at an index: it is no definition, its name is blank, or an
earlier item has the same name. -/
inductive FaultAt (items : List Json) (index : Nat) : CatalogFault → Prop where
  | badTool {item : Json} {fault : Json.Fault} (hitem : items[index]? = some item)
      (h : ToolDefinition.decoder.fromJson item = .error fault) :
      FaultAt items index (.badTool index fault)
  | emptyName (h : NamedAt items index "") : FaultAt items index (.emptyName index)
  | duplicateName {name : String} {earlier : Nat} (h : NamedAt items index name)
      (hgiven : name ≠ "") (hlt : earlier < index) (hearlier : NamedAt items earlier name) :
      FaultAt items index (.duplicateName name)

/-- The item at an index has a fault, and no earlier one has any. -/
def FirstFaultAt (items : List Json) (index : Nat) (fault : CatalogFault) : Prop :=
  FaultAt items index fault ∧ ∀ earlier < index, ∀ other, ¬ FaultAt items earlier other

theorem NamedAt.unique {otherName : String} (h : NamedAt items index name)
    (hother : NamedAt items index otherName) : name = otherName := by
  obtain ⟨item, tool, hitem, htool, rfl⟩ := h
  obtain ⟨_, _, hsame, hotherTool, rfl⟩ := hother
  cases hitem.symm.trans hsame
  cases htool.symm.trans hotherTool
  rfl

theorem NamedAt.lt_length (h : NamedAt items index name) : index < items.length := by
  obtain ⟨item, -, hitem, -⟩ := h
  exact (List.getElem?_eq_some_iff.mp hitem).1

theorem NamedAt.ne_error {fault : Json.Fault} (h : NamedAt items index name)
    (hitem : items[index]? = some item) :
    ToolDefinition.decoder.fromJson item ≠ .error fault := by
  obtain ⟨_, tool, hsame, htool, -⟩ := h
  cases hitem.symm.trans hsame
  rw [htool]
  exact nofun

theorem FaultAt.lt_length (h : FaultAt items index fault) : index < items.length := by
  cases h with
  | badTool hitem => exact (List.getElem?_eq_some_iff.mp hitem).1
  | emptyName h => exact h.lt_length
  | duplicateName h => exact h.lt_length

theorem NamedAt.congr {others : List Json} (h : NamedAt items index name)
    (hitem : others[index]? = items[index]?) : NamedAt others index name := by
  obtain ⟨item, tool, hat, htool, hname⟩ := h
  exact ⟨item, tool, hitem.trans hat, htool, hname⟩

/-- Whether an item has a fault depends on nothing behind it. -/
theorem FaultAt.congr {others : List Json} (h : FaultAt items index fault)
    (hitems : ∀ place ≤ index, others[place]? = items[place]?) : FaultAt others index fault := by
  have hhere := hitems index (Nat.le_refl index)
  cases h with
  | badTool hitem h => exact .badTool (hhere.trans hitem) h
  | emptyName h => exact .emptyName (h.congr hhere)
  | duplicateName h hgiven hlt hearlier =>
      exact .duplicateName (h.congr hhere) hgiven hlt
        (hearlier.congr (hitems _ (Nat.le_of_lt hlt)))

/-- An item has at most one fault. -/
theorem FaultAt.unique (h : FaultAt items index fault) (hother : FaultAt items index other) :
    fault = other := by
  cases h with
  | badTool hitem h =>
      cases hother with
      | badTool hsame hother =>
          cases hitem.symm.trans hsame
          cases h.symm.trans hother
          rfl
      | emptyName hname => exact absurd h (hname.ne_error hitem)
      | duplicateName hname => exact absurd h (hname.ne_error hitem)
  | emptyName h =>
      cases hother with
      | badTool hitem hother => exact absurd hother (h.ne_error hitem)
      | emptyName => rfl
      | duplicateName hname hgiven => exact absurd (hname.unique h) hgiven
  | duplicateName h hgiven =>
      cases hother with
      | badTool hitem hother => exact absurd hother (h.ne_error hitem)
      | emptyName hname => exact absurd (h.unique hname) hgiven
      | duplicateName hname => rw [h.unique hname]

theorem FirstFaultAt.place_eq (h : FirstFaultAt items index fault)
    (hother : FirstFaultAt items place other) : index = place := by
  rcases Nat.lt_trichotomy index place with hlt | rfl | hlt
  · exact absurd h.1 (hother.2 index hlt fault)
  · rfl
  · exact absurd hother.1 (h.2 place hlt other)

/-! ## Reading items -/

/-- What is known when the item at an index is reached: exactly the names before it have been seen,
and nothing has been wrong. -/
structure Reached (items : List Json) (index : Nat) (seen : List String) : Prop where
  seen : ∀ name, name ∈ seen ↔ ∃ earlier < index, NamedAt items earlier name
  faultless : ∀ earlier < index, ∀ fault, ¬ FaultAt items earlier fault

theorem Reached.start (items : List Json) : Reached items 0 [] where
  seen name := by simp
  faultless earlier hlt := absurd hlt (Nat.not_lt_zero earlier)

theorem Reached.next (h : Reached items index seen) (hname : NamedAt items index name)
    (hnone : ∀ fault, ¬ FaultAt items index fault) : Reached items (index + 1) (name :: seen) where
  seen other := by
    rw [List.mem_cons, h.seen]
    constructor
    · rintro (rfl | ⟨earlier, hlt, hearlier⟩)
      · exact ⟨index, Nat.lt_succ_self index, hname⟩
      · exact ⟨earlier, Nat.lt_succ_of_lt hlt, hearlier⟩
    · rintro ⟨earlier, hlt, hearlier⟩
      rcases Nat.lt_succ_iff_lt_or_eq.mp hlt with hlt | rfl
      · exact .inr ⟨earlier, hlt, hearlier⟩
      · exact .inl (hearlier.unique hname)
  faultless earlier hlt := by
    rcases Nat.lt_succ_iff_lt_or_eq.mp hlt with hlt | rfl
    · exact h.faultless earlier hlt
    · exact hnone

theorem readItems_of_ok {tool : ToolDefinition}
    (htool : ToolDefinition.decoder.fromJson item = .ok tool) (rest : List Json) :
    readItems index seen (item :: rest) =
      if Text.trim tool.name = "" then .error (.emptyName index)
      else if Text.trim tool.name ∈ seen then .error (.duplicateName (Text.trim tool.name))
      else (readItems (index + 1) (Text.trim tool.name :: seen) rest).map (tool :: ·) := by
  rw [readItems, htool]
  simp only [Except.mapError, bind, Except.bind, String.isEmpty_iff, List.contains_iff_mem]
  by_cases hblank : Text.trim tool.name = ""
  · rw [if_pos hblank, if_pos hblank]
  · rw [if_neg hblank, if_neg hblank]
    by_cases hseen : Text.trim tool.name ∈ seen
    · rw [if_pos hseen, if_pos hseen]
    · rw [if_neg hseen, if_neg hseen]
      cases readItems (index + 1) (Text.trim tool.name :: seen) rest with
      | error fault => rfl
      | ok more => rfl

/-- Reading stops at an item that has a fault, and otherwise goes on with its name among those that
have been seen. -/
theorem readItems_cases (h : Reached items index seen) (hitem : items[index]? = some item)
    (rest : List Json) :
    (∃ fault, FaultAt items index fault ∧ readItems index seen (item :: rest) = .error fault) ∨
    ∃ name, NamedAt items index name ∧ (∀ fault, ¬ FaultAt items index fault) ∧
      ∀ fault, readItems index seen (item :: rest) = .error fault ↔
        readItems (index + 1) (name :: seen) rest = .error fault := by
  cases htool : ToolDefinition.decoder.fromJson item with
  | error fault =>
      refine .inl ⟨_, .badTool hitem htool, ?_⟩
      rw [readItems, htool]
      rfl
  | ok tool =>
      have hname : NamedAt items index (Text.trim tool.name) := ⟨item, tool, hitem, htool, rfl⟩
      rw [readItems_of_ok htool]
      by_cases hblank : Text.trim tool.name = ""
      · rw [if_pos hblank]
        exact .inl ⟨_, .emptyName (hblank ▸ hname), rfl⟩
      · rw [if_neg hblank]
        by_cases hseen : Text.trim tool.name ∈ seen
        · rw [if_pos hseen]
          obtain ⟨earlier, hlt, hearlier⟩ := (h.seen _).mp hseen
          exact .inl ⟨_, .duplicateName hname hblank hlt hearlier, rfl⟩
        · rw [if_neg hseen]
          refine .inr ⟨_, hname, fun fault hfault => ?_, fun fault => ?_⟩
          · cases hfault with
            | badTool hsame herror => exact hname.ne_error hsame herror
            | emptyName hempty => exact hblank (hname.unique hempty)
            | duplicateName hsame hgiven hlt hearlier =>
                cases hsame.unique hname
                exact hseen ((h.seen _).mpr ⟨_, hlt, hearlier⟩)
          · cases readItems (index + 1) (Text.trim tool.name :: seen) rest with
            | error other => exact Iff.rfl
            | ok more => exact iff_of_false nofun nofun

/-- Reading fails with the first fault of all items, if there is one. -/
theorem readItems_eq_error {rest : List Json} (h : Reached items index seen)
    (hrest : items.drop index = rest) :
    readItems index seen rest = .error fault ↔ ∃ place, FirstFaultAt items place fault := by
  induction rest generalizing index seen with
  | nil =>
      refine iff_of_false nofun ?_
      rintro ⟨place, hfault, -⟩
      have hlt := Nat.lt_of_lt_of_le hfault.lt_length (List.drop_eq_nil_iff.mp hrest)
      exact h.faultless place hlt fault hfault
  | cons item rest ih =>
      have hitem : items[index]? = some item := by
        rw [← Nat.add_zero index, ← List.getElem?_drop, hrest]
        rfl
      have hdrop : items.drop (index + 1) = rest := by
        rw [← List.tail_drop, hrest, List.tail_cons]
      rcases readItems_cases h hitem rest with ⟨found, hfound, hread⟩ | ⟨name, hname, hnone, hread⟩
      · rw [hread, Except.error.injEq]
        constructor
        · rintro rfl
          exact ⟨index, hfound, h.faultless⟩
        · rintro ⟨place, hplace⟩
          cases hplace.place_eq ⟨hfound, h.faultless⟩
          exact hfound.unique hplace.1
      · rw [hread]
        exact ih (h.next hname hnone) hdrop

/-! ## Parsing -/

theorem mapError_eq_error {α ε η : Type} {first : Except ε α} {f : ε → η} {error : η} :
    first.mapError f = .error error ↔ ∃ fault, first = .error fault ∧ error = f fault := by
  cases first with
  | error found =>
      show Except.error (f found) = _ ↔ _
      simp [eq_comm]
  | ok value => exact iff_of_false nofun nofun

theorem parse_of_read {text : String} (hread : Json.read text = .ok json) :
    parse text = (ofJson json).mapError .unusableCatalog := by
  rw [parse, hread]
  rfl

/-- A text that is no JSON is refused as such. -/
theorem parse_of_read_error {text : String} {found : Json.Fault}
    (hread : Json.read text = .error found) : parse text = .error (.json found) := by
  rw [parse, hread]
  rfl

/-- A value is refused for its shape, or for the first fault of its items. -/
theorem ofJson_eq_error : ofJson json = .error fault ↔
    ((∀ items, ¬ ListsTools json items) ∧ fault = shapeFault json) ∨
      ∃ items index, ListsTools json items ∧ FirstFaultAt items index fault := by
  rcases items_cases json with ⟨items, hitems⟩ | hshape
  · have hlist := items_eq_ok.mp hitems
    have hofJson : ofJson json = readItems 0 [] items := by
      rw [ofJson, hitems]
      rfl
    rw [hofJson, readItems_eq_error (Reached.start items) List.drop_zero]
    constructor
    · rintro ⟨index, hfirst⟩
      exact .inr ⟨items, index, hlist, hfirst⟩
    · rintro (⟨hnone, -⟩ | ⟨others, index, hothers, hfirst⟩)
      · exact absurd hlist (hnone items)
      · cases hitems.symm.trans (items_eq_ok.mpr hothers)
        exact ⟨index, hfirst⟩
  · have hnone (items : List Json) : ¬ ListsTools json items := by
      intro hlist
      cases hshape.symm.trans (items_eq_ok.mpr hlist)
    have hofJson : ofJson json = .error (shapeFault json) := by
      rw [ofJson, hshape]
      rfl
    rw [hofJson, Except.error.injEq, eq_comm]
    constructor
    · intro h
      exact .inl ⟨hnone, h⟩
    · rintro (⟨-, h⟩ | ⟨items, -, hlist, -⟩)
      · exact h
      · exact absurd hlist (hnone items)

/-- What stands behind a first fault does not matter. -/
theorem FirstFaultAt.of_take {others : List Json} (h : FirstFaultAt items index fault)
    (htake : others.take (index + 1) = items.take (index + 1)) :
    FirstFaultAt others index fault := by
  have hitem (place : Nat) (hle : place ≤ index) : others[place]? = items[place]? := by
    rw [← List.getElem?_take_of_lt (Nat.lt_succ_of_le hle), htake,
      List.getElem?_take_of_lt (Nat.lt_succ_of_le hle)]
  refine ⟨h.1.congr hitem, fun earlier hlt other hother => h.2 earlier hlt other ?_⟩
  exact hother.congr fun place hle => (hitem place (Nat.le_trans hle (Nat.le_of_lt hlt))).symm

theorem wellNamed_iff : WellNamed tools ↔ (∀ tool ∈ tools, Text.trim tool.name ≠ "") ∧
    (tools.map fun tool => Text.trim tool.name).Nodup := by
  have hgiven : "" ∉ trimmedNames tools ↔ ∀ tool ∈ tools, Text.trim tool.name ≠ "" := by
    simp [trimmedNames]
  rw [← hgiven]
  exact ⟨fun h => ⟨h.given, h.distinct⟩, fun h => ⟨h.1, h.2⟩⟩

/-- The items of a value that has been read are read as tools with the names that are written. -/
theorem forall₂_of_mapM (hstored : json.Stored) (hlist : ListsTools json items)
    (h : items.mapM ToolDefinition.decoder.fromJson = .ok tools) :
    List.Forall₂ (fun item tool => ToolDefinition.decoder.fromJson item = .ok tool ∧
      ToolDefinition.writtenName? item = some (.string tool.name)) items tools := by
  have hitems : ∀ item ∈ items, item.Stored := fun item hitem =>
    (stored_of_items (items_eq_ok.mpr hlist) hstored hitem).1
  refine ((List.forall₂_and_left _ _).mpr ⟨hitems, mapM_eq_ok.mp h⟩).imp fun item tool hboth => ?_
  exact ⟨hboth.2, ToolDefinition.writtenName?_of_fromJson hboth.1 hboth.2⟩

/-- A text that is no JSON is refused as such. Any other text is parsed if it holds a list of items,
each of them a definition, whose names without the blanks around them are neither empty nor
repeated; the tools then stand in the order of the items, with their names as they are written.
Otherwise the catalog is unusable: for its shape, or for the first fault of its items, and then it
does not matter what stands behind the item that has it. -/
theorem parse_outcome (text : String) :
    (∀ fault, Json.read text = .error fault → parse text = .error (.json fault)) ∧
    ∀ json, Json.read text = .ok json →
      (∀ tools, parse text = .ok tools ↔ ∃ items, ListsTools json items ∧
        List.Forall₂ (fun item tool => ToolDefinition.decoder.fromJson item = .ok tool ∧
          ToolDefinition.writtenName? item = some (.string tool.name)) items tools ∧
        (∀ tool ∈ tools, Text.trim tool.name ≠ "") ∧
        (tools.map fun tool => Text.trim tool.name).Nodup) ∧
      (∀ error, parse text = .error error ↔ ∃ fault, error = .unusableCatalog fault ∧
        (((∀ items, ¬ ListsTools json items) ∧ fault = shapeFault json) ∨
          ∃ items index, ListsTools json items ∧ FirstFaultAt items index fault)) ∧
      ∀ items index fault, ListsTools json items → FirstFaultAt items index fault →
        ∀ otherText other others, Json.read otherText = .ok other → ListsTools other others →
          others.take (index + 1) = items.take (index + 1) →
            parse otherText = .error (.unusableCatalog fault) := by
  refine ⟨fun fault => parse_of_read_error, fun json hread => ⟨fun tools => ?_, fun error => ?_,
    fun items index fault hlist hfirst otherText other others hother hlistOther htake => ?_⟩⟩
  · rw [parse_eq_ok]
    constructor
    · rintro ⟨_, items, hsame, hitems, hdecoded, hnames⟩
      cases hread.symm.trans hsame
      have hlist := items_eq_ok.mp hitems
      exact ⟨items, hlist, forall₂_of_mapM (Json.stored_of_read hread).1 hlist hdecoded,
        wellNamed_iff.mp hnames⟩
    · rintro ⟨items, hlist, htools, hnames⟩
      exact ⟨json, items, hread, items_eq_ok.mpr hlist,
        mapM_eq_ok.mpr (htools.imp fun _ _ hboth => hboth.1), wellNamed_iff.mpr hnames⟩
  · rw [parse_of_read hread, mapError_eq_error]
    exact exists_congr fun fault => by rw [and_comm, ofJson_eq_error]
  · rw [parse_of_read hother, mapError_eq_error]
    exact ⟨fault, ofJson_eq_error.mpr (.inr ⟨others, index, hlistOther, hfirst.of_take htake⟩),
      rfl⟩

/-- A definition of which only the name is given. -/
def nameJson (name : String) : Json := .object [("function", .object [("name", .string name)])]

theorem read_nameJsons (names : List String) :
    Json.read (Json.array (names.map nameJson)).compact = .ok (.array (names.map nameJson)) := by
  have hexact : Json.Everywhere Json.Exact (.array (names.map nameJson)) := by
    refine .intro ⟨trivial, nofun⟩ fun item hitem => ?_
    obtain ⟨name, -, rfl⟩ := List.mem_map.mp hitem
    have hname : Json.Everywhere Json.Exact (.string name) := .of_no_parts ⟨trivial, nofun⟩ rfl
    simp only [nameJson, Json.Everywhere.object_iff, List.forall_mem_cons, List.not_mem_nil]
    exact ⟨⟨trivial, nofun⟩, ⟨⟨trivial, nofun⟩, hname, nofun⟩, nofun⟩
  have hdepth : Schema.depthOf (.array (names.map nameJson)) < Json.maxDepth := by
    refine Nat.lt_of_le_of_lt (Json.depthOf_le_iff.mpr fun item hitem => ?_)
      (show 2 + 1 < Json.maxDepth by decide)
    obtain ⟨name, -, rfl⟩ := List.mem_map.mp hitem
    exact Nat.le_refl 2
  rw [Json.read_compact hexact hdepth, Json.canonical_array, List.map_map]
  rfl

/-- Of two names that differ in blanks only the second one is refused, whatever follows it. Names
that differ in more are accepted, with the blanks around them. -/
theorem parse_outcome_blanks :
    (∃ tools, parse (Json.array ([" a ", "b"].map nameJson)).compact = .ok tools ∧
      tools.map (·.name) = [" a ", "b"]) ∧
    parse (Json.array ([" a ", "a", ""].map nameJson)).compact =
      .error (.unusableCatalog (.duplicateName "a")) ∧
    parse (Json.array ([" a ", "a"].map nameJson)).compact =
      .error (.unusableCatalog (.duplicateName "a")) := by
  have hread := read_nameJsons
  obtain ⟨haccepted, -, -⟩ := (parse_outcome _).2 _ (hread [" a ", "b"])
  obtain ⟨-, -, hbehind⟩ := (parse_outcome _).2 _ (hread [" a ", "a", ""])
  have hfirst : FirstFaultAt ([" a ", "a", ""].map nameJson) 1 (.duplicateName "a") := by
    have hname : NamedAt ([" a ", "a", ""].map nameJson) 0 "a" := ⟨_, _, rfl, rfl, by decide⟩
    refine ⟨.duplicateName ⟨_, _, rfl, rfl, by decide⟩ (by decide) Nat.zero_lt_one hname,
      fun earlier hlt other hfault => ?_⟩
    obtain rfl : earlier = 0 := Nat.lt_one_iff.mp hlt
    cases hfault with
    | badTool hitem herror => exact hname.ne_error hitem herror
    | emptyName hempty => exact absurd (hname.unique hempty) (by decide)
    | duplicateName _ _ hnone => exact absurd hnone (Nat.not_lt_zero _)
  have hrefused := hbehind _ 1 _ (.list _) hfirst
  refine ⟨⟨_, (haccepted _).mpr ⟨_, .list _, .cons ⟨rfl, rfl⟩ (.cons ⟨rfl, rfl⟩ .nil), by decide,
    by decide⟩, rfl⟩, ?_, ?_⟩
  · exact hrefused _ _ _ (hread [" a ", "a", ""]) (.list _) rfl
  · exact hrefused _ _ _ (hread [" a ", "a"]) (.list _) rfl

end Catalog

end ToolDiscovery
