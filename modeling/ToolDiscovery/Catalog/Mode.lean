import ToolDiscovery.Json.Decoder
import ToolDiscovery.Text.Blank

/-!
# Modes of search

A query is matched with a catalog by its words, as a pattern, or in both ways at once.
-/

namespace ToolDiscovery

/-- How a query is matched with a catalog. -/
inductive SearchMode where
  /-- By its words. -/
  | bm25
  /-- As a pattern. -/
  | regex
  /-- In both ways. -/
  | hybrid
deriving DecidableEq, Repr

namespace SearchMode

open Json (Decoder Variants)

/-- The name of a mode. -/
def name : SearchMode → String
  | bm25 => "bm25"
  | regex => "regex"
  | hybrid => "hybrid"

/-- All modes. -/
def all : List SearchMode := [bm25, regex, hybrid]

/-- The mode of a name, which may be in upper or lower case and have blanks around it. The fault
tells the name that was looked for. -/
def parse (text : String) : Except String SearchMode :=
  let wanted := String.ofList ((Text.trimChars text.toList).map Char.toLower)
  match all.find? (·.name == wanted) with
  | some mode => .ok mode
  | none => .error ("unknown search mode '" ++ wanted ++ "' (expected bm25, regex, or hybrid)")

/-- A mode in JSON. -/
def toJson (mode : SearchMode) : Json := .string mode.name

/-- The modes by name. -/
def variants : Variants SearchMode := all.map fun mode => (mode.name, .none mode)

/-- Reads a mode. -/
def decoder : Decoder SearchMode := variants.decoder

end SearchMode

end ToolDiscovery
