import Mathlib
import ToolDiscovery.Proofs.CorpusStatistics
import ToolDiscovery.Proofs.StoredValues
import ToolDiscovery.Proofs.Tokens

/-!
# What is counted of a tool

The document of a tool is one text, but its tokens are those of its parts, each read for itself: the
name three times, the description, and the names and descriptions of the parameters in ascending
order (`IndexEntry.tokens_of_parts`). `ToolDefinition.HasParameter` says which parameters these are.
-/

namespace ToolDiscovery

open Json (Everywhere Members)
open Text (tokenize)

namespace ToolDefinition

variable {tool : ToolDefinition} {name description : String} {properties : Members}

/-- A schema has a description: the text under that key, or the empty text if there is none. -/
def IsDescribed (schema : Json) (description : String) : Prop :=
  schema.member? "description" = some (.string description) ∨
    description = "" ∧ ∀ text, schema.member? "description" ≠ some (.string text)

/-- A tool has a parameter with a name and a description at the top level of its schema. -/
def HasParameter (tool : ToolDefinition) (name description : String) : Prop :=
  ∃ properties schema, tool.parameters.member? "properties" = some properties ∧
    properties.member? name = some schema ∧ IsDescribed schema description

/-- What is listed as the description of a schema. -/
def descriptionOf (schema : Json) : String :=
  match schema.member? "description" with
  | some (.string text) => text
  | _ => ""

theorem descriptionOf_eq_iff {schema : Json} :
    descriptionOf schema = description ↔ IsDescribed schema description := by
  unfold descriptionOf IsDescribed
  split
  · rename_i text htext
    simp [htext]
  · rename_i hnone
    have htext : ∀ text, schema.member? "description" ≠ some (.string text) := hnone
    simp [htext, eq_comm (a := "")]

/-- Parameters are listed in the order of the members under `properties`. -/
theorem parameterDocs_of_properties
    (h : tool.parameters.member? "properties" = some (.object properties)) :
    tool.parameterDocs = properties.map fun member => (member.1, descriptionOf member.2) := by
  unfold parameterDocs
  rw [h]
  refine List.map_congr_left fun member _ => ?_
  unfold descriptionOf
  dsimp only
  cases member.2.member? "description" with
  | none => rfl
  | some given =>
      cases given with
      | string text => rfl
      | null | boolean | integer | real | array | object => rfl

/-- Without an object under `properties` there are no parameters. -/
theorem parameterDocs_of_no_properties
    (h : ∀ properties, tool.parameters.member? "properties" ≠ some (.object properties)) :
    tool.parameterDocs = [] := by
  unfold parameterDocs
  split
  · rename_i properties hproperties
    exact absurd hproperties (h properties)
  · rfl

theorem ordered_properties (hordered : Everywhere Json.Ordered tool.parameters)
    (h : tool.parameters.member? "properties" = some (.object properties)) :
    (properties.map (·.1)).Pairwise (· < ·) := by
  cases hparameters : tool.parameters with
  | object members =>
      rw [hparameters] at hordered h
      exact ((Everywhere.object_iff.mp hordered).2 _ (Json.mem_of_lookup h)).here
  | null | boolean | integer | real | string | array =>
      rw [hparameters] at h
      cases h

/-- The parameters are listed in ascending order of their names, each once. -/
theorem ascending_parameterDocs (hordered : Everywhere Json.Ordered tool.parameters) :
    (tool.parameterDocs.map (·.1)).Pairwise (· < ·) := by
  by_cases h : ∃ properties, tool.parameters.member? "properties" = some (.object properties)
  · obtain ⟨properties, hproperties⟩ := h
    rw [parameterDocs_of_properties hproperties, List.map_map]
    exact ordered_properties hordered hproperties
  · rw [parameterDocs_of_no_properties (not_exists.mp h)]
    exact .nil

/-- All parameters are listed, and nothing else. -/
theorem mem_parameterDocs (hordered : Everywhere Json.Ordered tool.parameters) :
    (name, description) ∈ tool.parameterDocs ↔ tool.HasParameter name description := by
  by_cases h : ∃ properties, tool.parameters.member? "properties" = some (.object properties)
  · obtain ⟨properties, hproperties⟩ := h
    have hnodup : (properties.map (·.1)).Nodup :=
      (ordered_properties hordered hproperties).imp String.ne_of_lt
    rw [parameterDocs_of_properties hproperties, List.mem_map]
    constructor
    · rintro ⟨⟨key, schema⟩, hmem, hsame⟩
      cases hsame
      have hlookup : properties.lookup key = some schema :=
        Json.lookup_of_mem hmem (List.nodup_iff_count.mp hnodup key)
      exact ⟨_, schema, hproperties, hlookup, descriptionOf_eq_iff.mp rfl⟩
    · rintro ⟨_, schema, hsame, hlookup, hdescribed⟩
      cases hproperties.symm.trans hsame
      refine ⟨(name, schema), Json.mem_of_lookup hlookup, ?_⟩
      rw [descriptionOf_eq_iff.mpr hdescribed]
  · rw [parameterDocs_of_no_properties (not_exists.mp h)]
    refine iff_of_false List.not_mem_nil ?_
    rintro ⟨properties, schema, hproperties, hlookup, -⟩
    cases properties with
    | object members => exact h ⟨members, hproperties⟩
    | null | boolean | integer | real | string | array => cases hlookup

/-- The tokens of the description come before those of the parameters. -/
theorem flatMap_detailTexts (tool : ToolDefinition) :
    tool.detailTexts.flatMap tokenize = tokenize tool.description ++
      tool.parameterDocs.flatMap fun parameter => tokenize parameter.1 ++ tokenize parameter.2 := by
  rw [detailTexts, List.flatMap_cons, List.flatMap_assoc]
  refine congrArg _ (List.flatMap_congr fun parameter _ => ?_)
  rw [List.flatMap_cons, List.flatMap_singleton]

end ToolDefinition

/-- A document counts each of its tokens as often as it occurs. -/
theorem Document.count_ofText (text token : String) :
    (ofText text).counts[token]?.getD 0 = (tokenize text).count token := by
  rw [show ofText text = ofTokens (tokenize text) from rfl, getElem?_counts]
  unfold TokenCounts.entryAfter
  split
  · rename_i hnone
    exact hnone.symm
  · exact Nat.zero_add _

namespace IndexEntry

/-- The tokens of the document of a tool are those of its parts, one part after the other: of the
name three times, of the description, and of the name and the description of each parameter. The
parameters come in ascending order of their names. A word is counted three times for each time that
it is in the name, and once for each time that it is in another part. -/
theorem tokens_of_parts (tool : ToolDefinition) :
    let document := (ofDefinition tool).document
    let parameters := tool.parameterDocs
    (Everywhere Json.Ordered tool.parameters →
      (parameters.map (·.1)).Pairwise (· < ·) ∧
      ∀ name description,
        (name, description) ∈ parameters ↔ tool.HasParameter name description) ∧
    tokenize document =
      tokenize tool.name ++ tokenize tool.name ++ tokenize tool.name ++ tokenize tool.description ++
        parameters.flatMap (fun parameter => tokenize parameter.1 ++ tokenize parameter.2) ∧
    ∀ word, (Document.ofText document).counts[word]?.getD 0 =
      3 * (tokenize tool.name).count word + (tokenize tool.description).count word +
        (parameters.map fun parameter =>
          (tokenize parameter.1).count word + (tokenize parameter.2).count word).sum := by
  intro document parameters
  have htokens : tokenize document =
      tokenize tool.name ++ tokenize tool.name ++ tokenize tool.name ++ tokenize tool.description ++
        parameters.flatMap fun parameter => tokenize parameter.1 ++ tokenize parameter.2 := by
    have hname : (List.replicate nameWeight (tokenize tool.name)).flatten =
        tokenize tool.name ++ tokenize tool.name ++ tokenize tool.name := by
      simp [nameWeight, List.replicate_succ]
    rw [tokenize_document, hname, ToolDefinition.flatMap_detailTexts,
      List.append_assoc _ (tokenize tool.description)]
  refine ⟨fun hordered => ⟨ToolDefinition.ascending_parameterDocs hordered,
    fun _ _ => ToolDefinition.mem_parameterDocs hordered⟩, htokens, fun word => ?_⟩
  have hcount : (parameters.flatMap fun parameter =>
      tokenize parameter.1 ++ tokenize parameter.2).count word =
        (parameters.map fun parameter =>
          (tokenize parameter.1).count word + (tokenize parameter.2).count word).sum := by
    rw [List.count_flatMap]
    refine congrArg List.sum (List.map_congr_left fun parameter _ => ?_)
    exact List.count_append
  rw [Document.count_ofText, htokens, List.count_append, hcount, List.count_append,
    List.count_append, List.count_append]
  omega

/-- A tool without a description, and with a parameter whose description is no text. -/
def thermometer : ToolDefinition where
  name := "read_Temp"
  description := ""
  parameters := .object
    [("properties", .object
      [("Unit", .object [("description", .string "\u212a, or C")]),
        ("place", .object [("description", .integer 5)])]),
      ("type", .string "object")]

theorem ordered_thermometer : Everywhere Json.Ordered thermometer.parameters := by
  simp only [thermometer, Everywhere.object_iff, List.forall_mem_cons, List.not_mem_nil]
  refine ⟨?_, ⟨?_, ⟨?_, ?_, nofun⟩, ⟨?_, ?_, nofun⟩, nofun⟩, ?_, nofun⟩
  · exact .cons (by decide) (.cons nofun .nil)
  · exact .cons (by decide) (.cons nofun .nil)
  · exact .cons nofun .nil
  · exact .of_no_parts trivial rfl
  · exact .cons nofun .nil
  · exact .of_no_parts trivial rfl
  · exact .of_no_parts trivial rfl

theorem tokens_of_parts_thermometer :
    let document := (ofDefinition thermometer).document
    Everywhere Json.Ordered thermometer.parameters ∧
      (thermometer.parameterDocs.map (·.1)).Pairwise (· < ·) ∧
      thermometer.HasParameter "place" "" ∧
      tokenize document =
        ["read_temp", "read_temp", "read_temp", "unit", "k", "or", "c", "place"] ∧
      (Document.ofText document).counts["read_temp"]?.getD 0 = 3 := by
  intro document
  obtain ⟨hparameters, htokens, hcounts⟩ := tokens_of_parts thermometer
  obtain ⟨hascending, hmem⟩ := hparameters ordered_thermometer
  refine ⟨ordered_thermometer, hascending, (hmem "place" "").mp (by decide +kernel),
    htokens.trans (by decide +kernel), (hcounts "read_temp").trans (by decide +kernel)⟩

end IndexEntry

end ToolDiscovery
