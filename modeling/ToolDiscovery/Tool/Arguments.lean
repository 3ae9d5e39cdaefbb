import ToolDiscovery.Schema.Reading
import ToolDiscovery.Tool.Definition

/-!
# Arguments of tool calls

A model calls a tool with arguments in JSON. They can be checked against the schema of the tool
before the call, and they are decoded in the call. The wording of what is wrong with them goes back
to the model.
-/

namespace ToolDiscovery

/-- What is wrong with the arguments of a call. -/
inductive ArgumentFault where
  /-- They are no JSON. -/
  | malformed (fault : Json.Fault)
  /-- They do not satisfy the schema. -/
  | violations (list : List Schema.Violation)

/-- The wording of what is wrong with the arguments for a tool. -/
def ArgumentFault.message (toolName : String) : ArgumentFault → String
  | malformed fault =>
    "Error: invalid JSON arguments for tool '" ++ toolName ++ "': " ++ fault.message ++
      ". Please provide valid JSON matching the tool's parameter schema."
  | violations list =>
    "Error: argument validation failed for tool '" ++ toolName ++ "':\n" ++
      "\n".intercalate (list.map fun violation => "  - " ++ violation.message) ++
      "\nPlease fix the arguments and try again."

/-- Checks the arguments of a call. They have to be JSON, and if the parameters of the tool are a
schema, they have to satisfy it. -/
def ToolDefinition.checkArguments (tool : ToolDefinition) (arguments : String) :
    Except ArgumentFault Unit := do
  let value ← (Json.read arguments).mapError .malformed
  match Schema.check tool.parameters value with
  | [] => .ok ()
  | violations => .error (.violations violations)

/-- Decodes the arguments of a call, or tells the model what is wrong with them. -/
def decodeArguments {α : Type} (decoder : Json.Decoder α) (arguments : String) : Except String α :=
  (decoder.decodeText arguments).mapError fun fault =>
    "Error: invalid tool arguments: " ++ fault.message ++
      ". Please provide valid JSON matching the tool's parameter schema."

end ToolDiscovery
