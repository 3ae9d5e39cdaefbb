import ToolDiscovery.Tool.Basic
import ToolDiscovery.Tool.Truncation

/-!
# Toolboxes

A `Toolbox` holds tools by name, and apart from them the order in which the names were first
registered. A tool that is registered under a name that is taken replaces the former one, and the
name keeps its place in the order.
-/

namespace ToolDiscovery

/-- Tools by name. -/
structure Toolbox (σ : Type) where
  /-- The tools, one of each name, the last registered one first. -/
  tools : List (Tool σ) := []
  /-- The names of the tools in the order in which they were first registered. -/
  names : List String := tools.reverse.map (·.name)
  /-- The greatest number of bytes of a result. -/
  maxResultBytes : Nat := 30000
  /-- Whether arguments are checked before a call. -/
  checksArguments : Bool := false

namespace Toolbox

variable {σ : Type}

/-- The tool of a name. -/
def find? (box : Toolbox σ) (name : String) : Option (Tool σ) := box.tools.find? (·.name == name)

/-- Whether there is a tool of a name. -/
def contains (box : Toolbox σ) (name : String) : Bool := (box.find? name).isSome

/-- Puts a tool before the others, of which the one with the same name is dropped. -/
def place (tool : Tool σ) (tools : List (Tool σ)) : List (Tool σ) :=
  tool :: tools.filter (·.name ≠ tool.name)

/-- Registers a tool. Its name is put at the end of the order unless it is taken. -/
def register (box : Toolbox σ) (tool : Tool σ) : Toolbox σ :=
  { box with
    tools := place tool box.tools
    names := if box.contains tool.name then box.names else box.names ++ [tool.name] }

/-- Registers a tool if a condition holds. -/
def registerIf (box : Toolbox σ) (condition : Bool) (tool : Tool σ) : Toolbox σ :=
  if condition then box.register tool else box

/-- The number of tools. -/
def size (box : Toolbox σ) : Nat := box.tools.length

/-- The definitions of the tools in the order of their names. -/
def definitions (box : Toolbox σ) : List ToolDefinition :=
  (box.names.filterMap box.find?).map (·.definition)

/-- The complaint about a name that nobody has registered. -/
def unknownTool (name : String) : String := "Error: unknown tool '" ++ name ++ "'"

/-- Calls a tool and shortens its result. If the arguments are checked and found wrong, the
complaint about them is the result. -/
def run (box : Toolbox σ) (tool : Tool σ) (arguments : String) : StateM σ String := do
  let checked := if box.checksArguments then tool.definition.checkArguments arguments else .ok ()
  match checked with
  | .error fault => pure (fault.message tool.name)
  | .ok () => return truncate (← tool.call arguments) box.maxResultBytes

/-- Calls the tool of a name. -/
def execute (box : Toolbox σ) (name arguments : String) : StateM σ String :=
  match box.find? name with
  | none => pure (unknownTool name)
  | some tool => box.run tool arguments

/-- A toolbox in one line. -/
def summary (box : Toolbox σ) : String :=
  "ToolSet \x7b tools: [" ++ ", ".intercalate (box.names.map Text.quoted) ++
    "], max_result_bytes: " ++ toString box.maxResultBytes ++
    ", validate_args: " ++ (if box.checksArguments then "true" else "false") ++ " \x7d"

variable {box : Toolbox σ} {tool : Tool σ} {name : String}

theorem name_of_find? (h : box.find? name = some tool) : tool.name = name :=
  beq_iff_eq.mp (List.find?_some (p := fun other : Tool σ => other.name == name) h)

theorem execute_of_none (h : box.find? name = none) (arguments : String) :
    box.execute name arguments = pure (unknownTool name) := by
  rw [execute, h]

theorem execute_of_some (h : box.find? name = some tool) (arguments : String) (state : σ) :
    box.execute name arguments state =
      match if box.checksArguments then tool.definition.checkArguments arguments else .ok () with
      | .error fault => (fault.message name, state)
      | .ok () => (truncate (tool.call arguments state).1 box.maxResultBytes,
          (tool.call arguments state).2) := by
  rw [execute, h, ← name_of_find? h]
  change box.run tool arguments state = _
  unfold run
  cases if box.checksArguments then tool.definition.checkArguments arguments else .ok () with
  | error fault => rfl
  | ok checked => rfl

end Toolbox

end ToolDiscovery
