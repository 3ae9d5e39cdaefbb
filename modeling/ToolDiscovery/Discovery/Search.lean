import ToolDiscovery.Decimal.Fixed
import ToolDiscovery.Discovery.Policy
import ToolDiscovery.Text.Preview

/-!
# Searching in a session

A search by a model finds tools, unlocks those that it does not see yet, and tells it about them in
words. The session is not changed: the outcome holds the one to go on with.
-/

namespace ToolDiscovery

/-- What comes of a search. -/
structure SearchOutcome where
  /-- What the model is told. -/
  text : String
  /-- The session to go on with. -/
  session : Session
  /-- What was found, the best first. -/
  hits : List Hit := []
  /-- The names of the tools that were unlocked, in the order of the hits. -/
  unlocked : List String := []

/-- The names of the tools that were unlocked, as a set. -/
def SearchOutcome.delta (outcome : SearchOutcome) : NameSet := .ofList outcome.unlocked

/-! ## What the model is told -/

namespace SearchReport

/-- A query that has nothing in it. -/
def blankQuery : String :=
  "Error: search query is empty. Describe the capability you need, e.g. \"send email\" or " ++
    "\"query database\"."

/-- A search without an index. -/
def notIndexed : String :=
  "Tool search is not initialized: the tool catalog has not been indexed yet. Try again on the " ++
    "next step."

/-- A search without hits. -/
def noHits (query : String) (mode : SearchMode) : String :=
  "No tools found matching \"" ++ query ++ "\" (mode: " ++ mode.name ++
    "). Try different keywords or a broader pattern."

/-- The greatest number of characters that are shown of a description. -/
def previewLength : Nat := 200

/-- The line of a hit, with its rank counted from one. -/
def hitLine (rank : Nat) (hit : Hit) (description : String) : String :=
  toString rank ++ ". " ++ hit.name ++ " (score: " ++ Decimal.fixed 2 hit.score ++ ") - " ++
    Text.preview previewLength description ++ "\n"

/-- What is said about the hits before them. -/
def header (query : String) (mode : SearchMode) (count : Nat) : String :=
  "Found " ++ toString count ++ " tool(s) matching \"" ++ query ++ "\" (mode: " ++ mode.name ++
    "):\n"

/-- What is said about the tools that were unlocked. -/
def trailer (unlocked : List String) : String :=
  if unlocked.isEmpty then "\nAll matching tools were already available."
  else
    "\nNewly unlocked: " ++ ", ".intercalate unlocked ++
      "\nThese tools can be called from your next step onward."

/-- A search with hits. -/
def found (index : CatalogIndex) (query : String) (mode : SearchMode) (hits : List Hit)
    (unlocked : List String) : String :=
  let lines := hits.zipIdx.map fun (hit, rank) =>
    hitLine (rank + 1) hit ((index.description? hit.name).getD "")
  header query mode hits.length ++ String.join lines ++ trailer unlocked

end SearchReport

/-! ## Searching -/

/-- Unlocks the tools that were found, unless they are always shown. Gives the session to go on
with, and the names of those that were not unlocked before, in their order. -/
def unlockHits (alwaysInclude : List String) : List Hit → Session → Session × List String
  | [], session => (session, [])
  | hit :: rest, session =>
    if alwaysInclude.contains hit.name || session.contains hit.name then
      unlockHits alwaysInclude rest session
    else
      let (final, names) := unlockHits alwaysInclude rest (session.unlock hit.name)
      (final, hit.name :: names)

namespace Policy

/-- The mode of a request. -/
def modeOf (policy : Policy) (request : SearchRequest) : SearchMode :=
  request.mode?.getD policy.settings.defaultMode

/-- The limit of a request, which is at least one and at most `maxHits`. -/
def limitOf (policy : Policy) (request : SearchRequest) : Nat :=
  max 1 (min maxHits (request.limit?.getD policy.settings.defaultLimit))

/-- Searches in an indexed catalog. -/
def searchingIn (indexed : IndexedCatalog) (request : SearchRequest) (session : Session) :
    Change Policy SearchOutcome := do
  let policy ← get
  let mode := policy.modeOf request
  let hits ← MonadExcept.ofExcept
    (indexed.index.search request.query mode (policy.limitOf request))
  if hits.isEmpty then return { text := SearchReport.noHits request.query mode, session }
  let (session, unlocked) := unlockHits policy.settings.alwaysInclude hits session
  let text := SearchReport.found indexed.index request.query mode hits unlocked
  return { text, session, hits, unlocked }

/-- Searches as a request says. Neither a blank query nor a missing index is an error. -/
def searching (request : SearchRequest) (session : Session) : Change Policy SearchOutcome := do
  if Text.isBlankText request.query then return { text := SearchReport.blankQuery, session }
  match (← get).indexed? with
  | none => return { text := SearchReport.notIndexed, session }
  | some indexed => searchingIn indexed request session

/-- What comes of a search under a policy. -/
def search (policy : Policy) (request : SearchRequest) (session : Session) :
    Except DiscoveryError SearchOutcome :=
  ((searching request session).result policy).map (·.1)

end Policy

end ToolDiscovery
