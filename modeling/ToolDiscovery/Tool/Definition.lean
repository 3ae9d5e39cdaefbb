import ToolDiscovery.Json.Record

/-!
# Tool definitions

A `ToolDefinition` is what a model is told about a tool: its name, what it is for, and a schema of
its arguments. In JSON it is an object that holds the kind of the tool, of which there is only one,
and the function.
-/

namespace ToolDiscovery

/-- What a model is told about a tool. -/
structure ToolDefinition where
  /-- The name by which the tool is called. -/
  name : String
  /-- What the tool is for. -/
  description : String
  /-- The schema of the arguments, which may be any value. -/
  parameters : Json

namespace ToolDefinition

open Json (Decoder Record Field Payload Variants)

/-- The schema of a tool that says nothing about its arguments. -/
def emptyParameters : Json :=
  .object [("properties", .object []), ("type", .string "object")]

/-- The name and the description of each parameter at the top level, in ascending order of the
names. A parameter without a description has an empty one. -/
def parameterDocs (tool : ToolDefinition) : List (String × String) :=
  match tool.parameters.member? "properties" with
  | some (.object members) =>
    members.map fun (name, schema) =>
      match schema.member? "description" with
      | some (.string description) => (name, description)
      | _ => (name, "")
  | _ => []

/-! ## JSON -/

/-- The function part of a definition in JSON. -/
def functionJson (tool : ToolDefinition) : Json :=
  .object [("name", .string tool.name), ("description", .string tool.description),
    ("parameters", tool.parameters)]

/-- A definition in JSON. -/
def toJson (tool : ToolDefinition) : Json :=
  .object [("type", .string "function"), ("function", tool.functionJson)]

/-- What has been read of the function part. -/
structure FunctionDraft where
  name : Option String := none
  description : Option String := none
  parameters : Option Json := none

/-- The function part, which has to have a name. -/
def functionRecord : Record FunctionDraft ToolDefinition where
  name := "FunctionDef"
  fields :=
    [.of "name" .string (·.name) fun draft name => { draft with name := some name },
      .of "description" .string (·.description)
        (fun draft description => { draft with description := some description }) true,
      .of "parameters" .json (·.parameters)
        (fun draft parameters => { draft with parameters := some parameters }) true]
  blank := {}
  finish draft :=
    match draft.name with
    | none => .error "name"
    | some name => .ok {
        name
        description := draft.description.getD ""
        parameters := draft.parameters.getD emptyParameters }

/-- What has been read of a definition. -/
structure Draft where
  kind : Option Unit := none
  function : Option ToolDefinition := none

/-- The kinds of tools. -/
def kinds : Variants Unit := [("function", .none ())]

/-- A definition, whose kind may be left out. -/
def record : Record Draft ToolDefinition where
  name := "ToolDef"
  fields :=
    [.of "type" kinds.decoder (·.kind) (fun draft kind => { draft with kind := some kind }) true,
      .of "function" functionRecord.decoder (·.function)
        fun draft function => { draft with function := some function }]
  blank := {}
  finish draft :=
    match draft.function with
    | none => .error "function"
    | some tool => .ok tool

/-- Reads a definition. -/
def decoder : Decoder ToolDefinition := record.decoder

end ToolDefinition

end ToolDiscovery
