import ToolDiscovery.Error
import ToolDiscovery.Text.Blank
import ToolDiscovery.Tool.Definition

/-!
# Reading catalogs

A catalog is a JSON list of tool definitions, or an object that has such a list as its member
`tools`. No name may be blank, and no two names may differ in the blanks around them only.
-/

namespace ToolDiscovery.Catalog

/-- The items of a catalog. -/
def items : Json → Except CatalogFault (List Json)
  | .array items => .ok items
  | .object members =>
    match members.lookup "tools" with
    | some (.array items) => .ok items
    | _ => .error .noToolList
  | _ => .error .notAList

/-- Reads items, of which the first one has the given index. The names before it, without the blanks
around them, are given. -/
def readItems : (index : Nat) → (seen : List String) → List Json →
    Except CatalogFault (List ToolDefinition)
  | _, _, [] => .ok []
  | index, seen, item :: rest => do
    let tool ← (ToolDefinition.decoder.fromJson item).mapError (.badTool index)
    let name := Text.trim tool.name
    if name.isEmpty then .error (.emptyName index)
    if seen.contains name then .error (.duplicateName name)
    return tool :: (← readItems (index + 1) (name :: seen) rest)

/-- The tools of a catalog. -/
def ofJson (json : Json) : Except CatalogFault (List ToolDefinition) := do
  readItems 0 [] (← items json)

/-- Reads a catalog from a text. -/
def parse (text : String) : Except DiscoveryError (List ToolDefinition) := do
  let json ← (Json.read text).mapError .json
  (ofJson json).mapError .unusableCatalog

end ToolDiscovery.Catalog
