import ToolDiscovery.Catalog.Index
import ToolDiscovery.Discovery.Prompt
import ToolDiscovery.Discovery.Request
import ToolDiscovery.Discovery.Settings
import ToolDiscovery.Session.Basic

/-!
# Which tools a model sees

A `Policy` decides whether the tools of a catalog are shown to a model or hidden behind a search. It
decides once, when it indexes the first catalog that it gets; the index, too, is then kept. If the
tools are hidden, a model sees those that are always shown and those that its session has unlocked.
In any case it sees the tool that searches for tools.
-/

namespace ToolDiscovery

/-- A catalog that has been indexed, with what was decided about it. -/
structure IndexedCatalog where
  /-- The catalog for searches. -/
  index : CatalogIndex
  /-- What the catalog costs. -/
  budget : Budget
  /-- Whether its tools are hidden. -/
  isDeferred : Bool

/-- How tools are shown or hidden. -/
structure Policy where
  /-- The settings, which have been checked. -/
  settings : Settings
  /-- The context window of the model, if it is known. -/
  contextWindow? : Option Nat
  /-- The catalog, once it has been indexed. -/
  indexed? : Option IndexedCatalog := none
  /-- How often a catalog has been indexed. -/
  builds : Nat := 0

/-- What a model is shown. -/
structure VisibleTools where
  /-- The tools, the last one of which searches for others. -/
  tools : List ToolDefinition
  /-- What is added to the system prompt, if tools are hidden. -/
  promptAddition? : Option String

/-- The tools of a catalog but for one that has the name of the search itself. -/
def searchableTools (catalog : List ToolDefinition) : List ToolDefinition :=
  catalog.filter (·.name ≠ searchToolName)

namespace Policy

/-- A policy with the given settings, if they make sense. -/
def ofSettings (settings : Settings) (contextWindow? : Option Nat) :
    Except DiscoveryError Policy := do
  settings.check.mapError .invalidSettings
  return { settings, contextWindow? }

/-- A session that has searched for nothing yet. -/
def initialSession (policy : Policy) : Session := .ofNames policy.settings.alwaysInclude

/-- Whether a catalog has been indexed. -/
def isIndexed (policy : Policy) : Bool := policy.indexed?.isSome

/-- Whether tools are hidden, once that is decided. -/
def isDeferred? (policy : Policy) : Option Bool := policy.indexed?.map (·.isDeferred)

/-- What the catalog costs, once it has been indexed. -/
def budget? (policy : Policy) : Option Budget := policy.indexed?.map (·.budget)

/-- Indexes a catalog and decides whether its tools are hidden. -/
def build (policy : Policy) (catalog : List ToolDefinition) :
    Except DiscoveryError IndexedCatalog := do
  let tools := searchableTools catalog
  let index ← CatalogIndex.add {} tools
  let budget := Budget.measure tools policy.settings.threshold policy.contextWindow?
  return { index, budget, isDeferred := policy.settings.forceDeferred.getD budget.isExceeded }

/-- Indexes a catalog unless one has been indexed before. If that fails, it can be tried again. -/
def indexing (catalog : List ToolDefinition) : Change Policy IndexedCatalog := do
  match (← get).indexed? with
  | some indexed => return indexed
  | none =>
    let indexed ← MonadExcept.ofExcept ((← get).build catalog)
    modify fun policy => { policy with builds := policy.builds + 1 }
    modify fun policy => { policy with indexed? := some indexed }
    return indexed

/-- What is indexed once a catalog has been given, and the policy to go on with. -/
def ensureIndex (policy : Policy) (catalog : List ToolDefinition) :
    Except DiscoveryError (IndexedCatalog × Policy) :=
  (indexing catalog).result policy

/-- Whether a tool is shown although tools are hidden. -/
def isVisible (policy : Policy) (session : Session) (name : String) : Bool :=
  policy.settings.alwaysInclude.contains name || session.contains name

/-- The tools of a catalog that a model is shown, in the order of the catalog. -/
def shownTools (policy : Policy) (isDeferred : Bool) (catalog : List ToolDefinition)
    (session : Session) : List ToolDefinition :=
  (searchableTools catalog).filter fun tool => !isDeferred || policy.isVisible session tool.name

/-- Shows a model its part of a catalog in a session. The catalog is indexed if none has been. -/
def showing (catalog : List ToolDefinition) (session : Session) : Change Policy VisibleTools := do
  let _ ← indexing catalog
  let policy ← get
  let isDeferred := policy.isDeferred?.getD false
  let tools := policy.shownTools isDeferred catalog session ++ [searchToolDefinition]
  return { tools, promptAddition? := if isDeferred then some searchPrompt else none }

/-- What a model is shown of a catalog in a session, and the policy to go on with. -/
def filterTools (policy : Policy) (catalog : List ToolDefinition) (session : Session) :
    Except DiscoveryError (VisibleTools × Policy) :=
  (showing catalog session).result policy

end Policy

end ToolDiscovery
