import ToolDiscovery.Text.Quoted
import ToolDiscovery.Tool.Arguments

/-!
# Tools

A `Tool` is a definition together with what a call of it does. A call gets its arguments as a text,
may change the state that the tool works on, and always has a text as its result: what goes wrong is
told to the model in words.
-/

namespace ToolDiscovery

/-- A tool that works on states of type `σ`. -/
structure Tool (σ : Type) where
  /-- What a model is told about the tool. -/
  definition : ToolDefinition
  /-- What a call with the given arguments does. -/
  call : (arguments : String) → StateM σ String

namespace Tool

variable {σ α : Type}

/-- The name by which a tool is called. -/
def name (tool : Tool σ) : String := tool.definition.name

/-- The tool that decodes its arguments and hands them to a function. -/
def ofFunction (definition : ToolDefinition) (decoder : Json.Decoder α) (f : α → String) :
    Tool σ where
  definition := definition
  call arguments :=
    match decodeArguments decoder arguments with
    | .ok decoded => pure (f decoded)
    | .error complaint => pure complaint

/-- A tool in one line. -/
def summary (tool : Tool σ) : String := "FnTool \x7b name: " ++ Text.quoted tool.name ++ " \x7d"

end Tool

end ToolDiscovery
