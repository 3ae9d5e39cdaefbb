import Mathlib.Data.List.Nodup
import ToolDiscovery.Tool.Toolbox

/-!
# Toolboxes as ordered maps

Order and tools of a toolbox are kept apart, and only the test for a taken name keeps them in step.
`Toolbox.Follows` says what this comes to after a history of registrations: the order has the name
of each registered tool once, where it was first registered, and the table has the tool that was
registered last. One registration preserves it (`Follows.register`), hence any number of them do,
and what the other operations tell about the history is read off in `Toolbox.ordered_map`.
-/

namespace ToolDiscovery.Toolbox

variable {σ : Type} {box : Toolbox σ} {history : List (Tool σ)} {tool : Tool σ} {name : String}

/-! ## Histories -/

/-- A call that registers a tool, always or only under a condition. -/
inductive Registration (σ : Type) where
  | register (tool : Tool σ)
  | registerIf (condition : Bool) (tool : Tool σ)

/-- What is left of a toolbox after the call. -/
def Registration.apply (box : Toolbox σ) : Registration σ → Toolbox σ
  | register tool => box.register tool
  | registerIf condition tool => box.registerIf condition tool

/-- The tool that the call registers. -/
def Registration.tool? : Registration σ → Option (Tool σ)
  | register tool => some tool
  | registerIf condition tool => if condition then some tool else none

/-- Makes calls one after the other. -/
def registerAll (box : Toolbox σ) (calls : List (Registration σ)) : Toolbox σ :=
  calls.foldl Registration.apply box

/-- The tools that calls register, in their order. -/
def registered (calls : List (Registration σ)) : List (Tool σ) :=
  calls.filterMap Registration.tool?

theorem registered_cons (call : Registration σ) (calls : List (Registration σ)) :
    registered (call :: calls) = call.tool?.toList ++ registered calls := by
  unfold registered
  cases htool : call.tool? with
  | none => exact List.filterMap_cons_none htool
  | some tool => exact List.filterMap_cons_some htool

/-- The tool of a name that has been registered last. -/
def latest? (history : List (Tool σ)) (name : String) : Option (Tool σ) :=
  history.reverse.find? (·.name == name)

theorem latest?_concat (history : List (Tool σ)) (tool : Tool σ) (name : String) :
    latest? (history ++ [tool]) name =
      if tool.name = name then some tool else latest? history name := by
  rw [latest?, List.reverse_append, List.reverse_singleton, List.singleton_append, List.find?_cons]
  by_cases hsame : tool.name = name
  · rw [if_pos hsame, beq_iff_eq.mpr hsame]
  · rw [if_neg hsame, beq_eq_false_iff_ne.mpr hsame]
    rfl

/-- A tool that no tool of the same name follows in a history. -/
def IsLatest (history : List (Tool σ)) (tool : Tool σ) : Prop :=
  ∃ earlier later, history = earlier ++ tool :: later ∧ ∀ other ∈ later, other.name ≠ tool.name

theorem latest?_eq_some_iff :
    latest? history name = some tool ↔ tool.name = name ∧ IsLatest history tool := by
  rw [latest?, List.find?_eq_some_iff_append, beq_iff_eq]
  refine and_congr_right ?_
  rintro rfl
  constructor
  · rintro ⟨later, earlier, hreverse, hlater⟩
    refine ⟨earlier.reverse, later.reverse, ?_, fun other hother => ?_⟩
    · rw [List.reverse_eq_iff.mp hreverse, List.reverse_append, List.reverse_cons,
        List.append_assoc, List.singleton_append]
    · simpa using hlater other (List.mem_reverse.mp hother)
  · rintro ⟨earlier, later, rfl, hlater⟩
    refine ⟨later.reverse, earlier.reverse, ?_, fun other hother => ?_⟩
    · rw [List.reverse_append, List.reverse_cons, List.append_assoc, List.singleton_append]
    · simpa using hlater other (List.mem_reverse.mp hother)

theorem isSome_latest?_iff : (latest? history name).isSome ↔ name ∈ history.map (·.name) := by
  simp [latest?, List.find?_isSome, List.mem_map]

/-! ## One registration -/

theorem find?_register (box : Toolbox σ) (tool : Tool σ) (name : String) :
    (box.register tool).find? name = if tool.name = name then some tool else box.find? name := by
  by_cases hsame : tool.name = name
  · rw [if_pos hsame]
    exact List.find?_cons_of_pos (beq_iff_eq.mpr hsame)
  · rw [if_neg hsame]
    have hother : (box.register tool).find? name =
        (box.tools.filter (·.name ≠ tool.name)).find? (·.name == name) :=
      List.find?_cons_of_neg (by simpa using hsame)
    -- No tool of another name is dropped, so the search for one does not meet the filter.
    have hkept : ∀ other : Tool σ,
        (other.name ≠ tool.name ∧ other.name = name) ↔ other.name = name :=
      fun other => and_iff_right_of_imp fun h => h ▸ Ne.symm hsame
    rw [hother, List.find?_filter]
    refine congrArg (box.tools.find? ·) (funext fun other => Bool.eq_iff_iff.mpr ?_)
    simpa using hkept other

/-- A table has no name twice after a tool has been put before the others. -/
theorem nodup_place {tools : List (Tool σ)} (h : (tools.map (·.name)).Nodup) (tool : Tool σ) :
    ((place tool tools).map (·.name)).Nodup := by
  refine List.nodup_cons.mpr ⟨fun hmem => ?_, h.sublist (List.filter_sublist.map _)⟩
  obtain ⟨other, hother, hsame⟩ := List.mem_map.mp hmem
  exact of_decide_eq_true (List.mem_filter.mp hother).2 hsame

/-- A name at the end is dropped if it came before. -/
theorem eraseDups_concat (names : List String) (name : String) :
    (names ++ [name]).eraseDups =
      if name ∈ names then names.eraseDups else names.eraseDups ++ [name] := by
  rw [List.eraseDups_append]
  by_cases hold : name ∈ names
  · simp [List.removeAll, hold]
  · simp [List.removeAll, hold, List.eraseDups_cons]

/-! ## Any number of registrations -/

/-- The toolbox holds what a history of registrations leaves. -/
structure Follows (box : Toolbox σ) (history : List (Tool σ)) : Prop where
  /-- The order has each name once, where it was first registered. -/
  names_eq : box.names = (history.map (·.name)).eraseDups
  /-- The order has no name twice. -/
  names_nodup : box.names.Nodup
  /-- The table has no name twice. -/
  table_nodup : (box.tools.map (·.name)).Nodup
  /-- The table has the latest tool of each name. -/
  find?_eq : ∀ name, box.find? name = latest? history name

namespace Follows

theorem mem_names_iff (h : box.Follows history) : name ∈ box.names ↔ (box.find? name).isSome := by
  rw [h.find?_eq, isSome_latest?_iff, h.names_eq, List.mem_eraseDups]

theorem contains_iff (h : box.Follows history) : box.contains name ↔ name ∈ box.names :=
  h.mem_names_iff.symm

/-- The test for a taken name, which looks at the table, finds the names of the history. -/
theorem names_register (h : box.Follows history) (tool : Tool σ) :
    (box.register tool).names =
      if tool.name ∈ history.map (·.name) then box.names else box.names ++ [tool.name] := by
  have htaken : box.contains tool.name ↔ tool.name ∈ history.map (·.name) := by
    rw [h.contains_iff, h.names_eq, List.mem_eraseDups]
  exact if_congr htaken rfl rfl

/-- A toolbox keeps up with the history when a tool is registered. -/
theorem register (h : box.Follows history) (tool : Tool σ) :
    (box.register tool).Follows (history ++ [tool]) where
  names_eq := by
    rw [h.names_register, h.names_eq, List.map_append, List.map_singleton, eraseDups_concat]
  names_nodup := by
    rw [h.names_register]
    split
    · exact h.names_nodup
    · have hfresh : tool.name ∉ box.names := by rwa [h.names_eq, List.mem_eraseDups]
      exact List.concat_eq_append ▸ h.names_nodup.concat hfresh
  table_nodup := nodup_place h.table_nodup tool
  find?_eq name := by rw [find?_register, latest?_concat, h.find?_eq]

/-- A toolbox keeps up with the history when a call registers a tool or does not. -/
theorem apply (h : box.Follows history) (call : Registration σ) :
    (call.apply box).Follows (history ++ call.tool?.toList) := by
  cases call with
  | register tool => exact h.register tool
  | registerIf condition tool =>
      cases condition with
      | true => exact h.register tool
      | false =>
          have hsame : history ++ (Registration.registerIf false tool).tool?.toList = history :=
            List.append_nil history
          rw [hsame]
          exact h

/-- A toolbox keeps up with the history over any number of calls. -/
theorem registerAll (h : box.Follows history) (calls : List (Registration σ)) :
    (box.registerAll calls).Follows (history ++ registered calls) := by
  induction calls generalizing box history with
  | nil =>
      rw [registered, List.filterMap_nil, List.append_nil]
      exact h
  | cons call rest ih =>
      rw [registered_cons, ← List.append_assoc]
      exact ih (h.apply call)

end Follows

/-- No call changes how results are cut or whether arguments are checked. -/
theorem settings_apply (call : Registration σ) (box : Toolbox σ) :
    (call.apply box).maxResultBytes = box.maxResultBytes ∧
      (call.apply box).checksArguments = box.checksArguments := by
  cases call with
  | register tool => exact ⟨rfl, rfl⟩
  | registerIf condition tool => cases condition <;> exact ⟨rfl, rfl⟩

theorem settings_registerAll (box : Toolbox σ) (calls : List (Registration σ)) :
    (box.registerAll calls).maxResultBytes = box.maxResultBytes ∧
      (box.registerAll calls).checksArguments = box.checksArguments := by
  induction calls generalizing box with
  | nil => exact ⟨rfl, rfl⟩
  | cons call rest ih =>
      obtain ⟨hbytes, hchecks⟩ := settings_apply call box
      obtain ⟨hrestBytes, hrestChecks⟩ := ih (call.apply box)
      exact ⟨hrestBytes.trans hbytes, hrestChecks.trans hchecks⟩

/-- A toolbox that is empty has no history. -/
theorem follows_empty (maxResultBytes : Nat) (checksArguments : Bool) :
    ({ maxResultBytes, checksArguments } : Toolbox σ).Follows [] where
  names_eq := rfl
  names_nodup := List.nodup_nil
  table_nodup := List.nodup_nil
  find?_eq _ := rfl

/-! ## What a toolbox tells of its history -/

namespace Follows

/-- Order and table have the same number of names. -/
theorem size_eq (h : box.Follows history) : box.size = box.names.length := by
  have hsame : (box.tools.map (·.name)).Perm box.names := by
    rw [List.perm_ext_iff_of_nodup h.table_nodup h.names_nodup]
    intro name
    rw [h.mem_names_iff, find?, List.find?_isSome, List.mem_map]
    simp
  rw [size, ← hsame.length_eq, List.length_map]

/-- No name of the order is dropped for the lack of a tool. -/
theorem names_filterMap (h : box.Follows history) :
    (box.names.filterMap box.find?).map (·.name) = box.names := by
  have hname : ∀ name ∈ box.names, (box.find? name).map (·.name) = some name := by
    intro name hname
    obtain ⟨tool, htool⟩ := Option.isSome_iff_exists.mp (h.mem_names_iff.mp hname)
    rw [htool, Option.map_some, name_of_find? htool]
  rw [List.map_filterMap, List.filterMap_congr hname, List.filterMap_some]

theorem isLatest_of_find? (h : box.Follows history) (htool : box.find? name = some tool) :
    IsLatest history tool := by
  rw [h.find?_eq] at htool
  exact (latest?_eq_some_iff.mp htool).2

end Follows

/-- After any calls that register tools, a toolbox is the map from the names to their latest tools
in the order of first registration. The order has no name twice and none without a tool; there is
one definition for each name, that of its latest tool; and a call of a name checks the arguments
for its latest tool and goes to that tool, or complains if there is none. -/
theorem ordered_map (calls : List (Registration σ)) (maxResultBytes : Nat)
    (checksArguments : Bool) :
    let box := ({ maxResultBytes, checksArguments } : Toolbox σ).registerAll calls
    let history := registered calls
    box.names = (history.map (·.name)).eraseDups ∧ box.names.Nodup ∧
      (∀ name ∈ box.names, (box.find? name).isSome) ∧
      (∃ shown : List (Tool σ), box.definitions = shown.map (·.definition) ∧
        shown.map (·.name) = box.names ∧ ∀ tool ∈ shown, IsLatest history tool) ∧
      box.size = box.definitions.length ∧
      (∀ name, box.contains name ↔ name ∈ box.names) ∧
      (∀ tool, box.registerIf false tool = box) ∧
      (∀ name, name ∉ box.names → ∀ arguments,
        box.execute name arguments = pure (unknownTool name)) ∧
      ∀ name ∈ box.names, ∃ tool, tool.name = name ∧ IsLatest history tool ∧
        ∀ arguments state, box.execute name arguments state =
          match if checksArguments then tool.definition.checkArguments arguments else .ok () with
          | .error fault => (fault.message name, state)
          | .ok () => (truncate (tool.call arguments state).1 maxResultBytes,
              (tool.call arguments state).2) := by
  intro box history
  have h : box.Follows history := (follows_empty maxResultBytes checksArguments).registerAll calls
  obtain ⟨hbytes, hchecks⟩ : box.maxResultBytes = maxResultBytes ∧
    box.checksArguments = checksArguments := settings_registerAll _ calls
  refine ⟨h.names_eq, h.names_nodup, fun name hname => h.mem_names_iff.mp hname,
    ⟨_, rfl, h.names_filterMap, fun tool hmem => ?_⟩, ?_, fun name => h.contains_iff,
    fun tool => rfl, fun name hname arguments => ?_, fun name hname => ?_⟩
  · obtain ⟨name, -, htool⟩ := List.mem_filterMap.mp hmem
    exact h.isLatest_of_find? htool
  · have hlength := congrArg List.length h.names_filterMap
    rw [List.length_map] at hlength
    rw [h.size_eq, definitions, List.length_map, hlength]
  · rw [h.mem_names_iff, Option.not_isSome_iff_eq_none] at hname
    exact execute_of_none hname arguments
  · obtain ⟨tool, htool⟩ := Option.isSome_iff_exists.mp (h.mem_names_iff.mp hname)
    refine ⟨tool, name_of_find? htool, h.isLatest_of_find? htool, fun arguments state => ?_⟩
    have hexecute := execute_of_some htool arguments state
    rw [hbytes, hchecks] at hexecute
    exact hexecute

/-- A tool that gives the same answer whatever its arguments are. -/
def answering (name answer : String) : Tool Unit where
  definition := { name, description := answer, parameters := ToolDefinition.emptyParameters }
  call _ := pure answer

/-- A tool that is registered again keeps its place and gives the new answer. -/
theorem ordered_map_replaced :
    let box := ({} : Toolbox Unit).registerAll
      [.register (answering "mail" "old"), .registerIf false (answering "lamp" "on"),
        .register (answering "search" "none"), .registerIf true (answering "mail" "new")]
    box.names = ["mail", "search"] ∧ box.size = 2 ∧
      "lamp" ∉ box.names ∧ box.execute "lamp" "" = pure (unknownTool "lamp") ∧
      "mail" ∈ box.names ∧ ∀ arguments, box.execute "mail" arguments () = ("new", ()) := by
  intro box
  obtain ⟨-, -, -, -, -, -, -, hunknown, hknown⟩ := ordered_map
    [.register (answering "mail" "old"), .registerIf false (answering "lamp" "on"),
      .register (answering "search" "none"), .registerIf true (answering "mail" "new")] 30000 false
  have hlamp : "lamp" ∉ box.names := by decide
  have hmail : "mail" ∈ box.names := by decide
  refine ⟨rfl, rfl, hlamp, hunknown "lamp" hlamp "", hmail, fun arguments => ?_⟩
  obtain ⟨tool, hname, hlatest, hexecute⟩ := hknown "mail" hmail
  have htool := latest?_eq_some_iff.mpr ⟨hname, hlatest⟩
  cases htool
  exact hexecute arguments ()

end ToolDiscovery.Toolbox
