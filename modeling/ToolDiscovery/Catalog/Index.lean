import ToolDiscovery.Catalog.Mode
import ToolDiscovery.Change
import ToolDiscovery.Pattern.Compiled
import ToolDiscovery.Relevance.Bm25
import ToolDiscovery.Tool.Cost

/-!
# The index of a catalog

A `CatalogIndex` answers searches over a catalog. By words, tools are ranked by the relevance of all
their texts together; as a pattern, by which of their texts it occurs in; in the hybrid mode the two
scores are added.
-/

namespace ToolDiscovery

/-- What can be searched for in a tool. -/
structure IndexEntry where
  /-- The name of the tool. -/
  name : String
  /-- What the tool is for. -/
  description : String
  /-- The names and the descriptions of the parameters. -/
  parameterText : String

namespace IndexEntry

/-- The entry of a tool. -/
def ofDefinition (tool : ToolDefinition) : IndexEntry where
  name := tool.name
  description := tool.description
  parameterText :=
    let parts := tool.parameterDocs.flatMap fun (name, description) => [name, description]
    " ".intercalate (parts.filter (· ≠ ""))

/-- How often the name of a tool stands in its document. -/
def nameWeight : Nat := 3

/-- The document of an entry. The name stands in it several times, so that it counts more. -/
def document (entry : IndexEntry) : String :=
  let names := List.replicate nameWeight entry.name
  let texts := [entry.description, entry.parameterText].filter (· ≠ "")
  " ".intercalate (names ++ texts)

/-- The score of a pattern that occurs in the name of a tool. -/
def nameScore : Float := 2.0

/-- The score of a pattern that occurs in another text of a tool. -/
def textScore : Float := 1.0

/-- The score of a pattern, if it occurs in one of the texts. -/
def patternScore? (entry : IndexEntry) (pattern : Pattern.Expr) : Option Float :=
  if pattern.occursIn entry.name.toList then some nameScore
  else if pattern.occursIn entry.description.toList then some textScore
  else if pattern.occursIn entry.parameterText.toList then some textScore
  else none

end IndexEntry

/-- A tool that was found. -/
structure Hit where
  /-- The name of the tool. -/
  name : String
  /-- How well it matches. -/
  score : Float

/-- A hit in JSON. -/
def Hit.toJson (hit : Hit) : Json :=
  .object [("name", .string hit.name), ("score", .real hit.score)]

/-- A catalog that can be searched. -/
structure CatalogIndex where
  /-- The tools in the order of the catalog. -/
  entries : Array IndexEntry := #[]
  /-- For each name the position of the last tool with that name. -/
  positions : Std.TreeMap String Nat := ∅
  /-- The documents of the tools, in the same order. -/
  corpus : Corpus := {}

namespace CatalogIndex

/-- The greatest number of tools in an index. -/
def maxTools : Nat := 10000

/-- The number of tools. -/
def size (index : CatalogIndex) : Nat := index.entries.size

/-- Adds an entry behind the others, but not its document. -/
def place (index : CatalogIndex) (entry : IndexEntry) : CatalogIndex :=
  { index with
    entries := index.entries.push entry
    positions := index.positions.insert entry.name index.size }

/-- Takes in tools, unless there would be too many. Their documents come before their entries. -/
def extend (tools : List ToolDefinition) : Change CatalogIndex Unit := do
  let count := (← get).size + tools.length
  if maxTools < count then throw (.catalogTooLarge count maxTools)
  let added := tools.map IndexEntry.ofDefinition
  modify fun index => { index with corpus := index.corpus.add (added.map (·.document)) }
  added.forM fun entry => modify (·.place entry)

/-- The index with further tools, unless there would be too many. -/
def add (index : CatalogIndex) (tools : List ToolDefinition) : Except DiscoveryError CatalogIndex :=
  ((extend tools).result index).map (·.2)

/-- The names of the tools in the order of the catalog. -/
def names (index : CatalogIndex) : List String := index.entries.toList.map (·.name)

/-- Whether there is a tool with the given name. -/
def contains (index : CatalogIndex) (name : String) : Bool := index.positions.contains name

/-- The description of the last tool with the given name. -/
def description? (index : CatalogIndex) (name : String) : Option String := do
  let position ← index.positions[name]?
  return (← index.entries[position]?).description

/-! ## Searching -/

/-- The hits at the positions of a ranking. -/
def hits (index : CatalogIndex) (ranking : List (Scored Float)) : List Hit :=
  ranking.filterMap fun scored =>
    index.entries[scored.position]?.map fun entry => ⟨entry.name, scored.score⟩

/-- The expression for a pattern, unless it is too long. -/
def compilePattern (pattern : String) : Except DiscoveryError Pattern.Expr :=
  if Pattern.maxLength < pattern.length then
    .error (.patternTooLong pattern.length Pattern.maxLength)
  else .ok (Pattern.Expr.compile pattern)

/-- The best matches by words. -/
def rankWords (index : CatalogIndex) (query : String) (limit : Nat) : List (Scored Float) :=
  Bm25.default.search index.corpus query limit

/-- All matches of a pattern. -/
def patternMatches (index : CatalogIndex) (pattern : Pattern.Expr) : List (Scored Float) :=
  index.entries.toList.zipIdx.filterMap fun (entry, position) =>
    (entry.patternScore? pattern).map fun score => ⟨position, score⟩

/-- The best matches of a pattern. -/
def rankPattern (index : CatalogIndex) (pattern : Pattern.Expr) (limit : Nat) :
    List (Scored Float) :=
  Scored.best limit (index.patternMatches pattern)

/-- How much more the score of a pattern counts in the hybrid mode. -/
def patternWeight : Float := 2.0

/-- Adds scores to the scores of positions, which are zero at first. -/
def addScores (scores : Std.TreeMap Nat Float) (scored : List (Scored Float)) :
    Std.TreeMap Nat Float :=
  scored.foldl (fun scores s => scores.alter s.position fun sum => some (sum.getD 0.0 + s.score))
    scores

/-- The best matches in both ways. Each way proposes twice as many as are wanted, and those are
ranked by the sums of their scores. -/
def rankHybrid (index : CatalogIndex) (query : String) (pattern : Pattern.Expr) (limit : Nat) :
    List (Scored Float) :=
  let byWords := index.rankWords query (2 * limit)
  let byPattern := (index.rankPattern pattern (2 * limit)).map fun s =>
    { s with score := patternWeight * s.score }
  let sums := addScores (addScores ∅ byWords) byPattern
  Scored.best limit (sums.toList.map fun (position, score) => ⟨position, score⟩)

/-- Searches by words. -/
def searchWords (index : CatalogIndex) (query : String) (limit : Nat) : List Hit :=
  index.hits (index.rankWords query limit)

/-- Searches for a pattern. -/
def searchPattern (index : CatalogIndex) (pattern : String) (limit : Nat) :
    Except DiscoveryError (List Hit) :=
  return index.hits (index.rankPattern (← compilePattern pattern) limit)

/-- Searches in the given mode. -/
def search (index : CatalogIndex) (query : String) (mode : SearchMode) (limit : Nat) :
    Except DiscoveryError (List Hit) :=
  match mode with
  | .bm25 => return index.searchWords query limit
  | .regex => index.searchPattern query limit
  | .hybrid => return index.hits (index.rankHybrid query (← compilePattern query) limit)

end CatalogIndex

end ToolDiscovery
