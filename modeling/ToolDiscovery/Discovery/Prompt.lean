import ToolDiscovery.Text.Blank
import ToolDiscovery.Text.Occurrence

/-!
# What the system prompt says about searching

While tools are hidden, the system prompt tells the model how to search for them. The addition is
made once, however often it is applied.
-/

namespace ToolDiscovery

/-- What the system prompt says while tools are hidden. -/
def searchPrompt : String :=
  "## Tool discovery\n\n" ++
    "Only a subset of the available tools is loaded. If none of the tools you can see fits the " ++
    "task, call `search_tools` with keywords describing what you need (e.g. \"create github " ++
    "issue\" or \"read csv\"). Matching tools are unlocked and become callable from your next " ++
    "step onward. Use mode \"regex\" to match tool names by pattern (e.g. \"^git_\"). Search " ++
    "again with different wording if the first attempt finds nothing useful."

/-- Adds to a system prompt what it does not contain yet. A blank prompt gives way to the
addition. -/
def extendPrompt (system : String) (addition? : Option String) : String :=
  match addition? with
  | none => system
  | some addition =>
    if Text.occursIn addition.toList system.toList then system
    else if Text.isBlankText system then addition
    else system ++ "\n\n" ++ addition

end ToolDiscovery
