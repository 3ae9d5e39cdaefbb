import ToolDiscovery.Catalog.Reading
import ToolDiscovery.CommandLine.Invocation
import ToolDiscovery.Discovery.Search

/-!
# Running the program

The program reads its files, indexes the catalog and shows what its command asks for. All of it but
the reading of the files is a function of what they hold.
-/

namespace ToolDiscovery

/-- The text of a file, unless it cannot be had. -/
abbrev FileText := Except FileFault String

/-- The bytes of a file as a text. -/
def FileText.ofBytes (bytes : ByteArray) : FileText :=
  match String.fromUTF8? bytes with
  | some text => .ok text
  | none => .error .notText

/-- Reads a catalog from a file. -/
def Catalog.load (file : FileText) : Except DiscoveryError (List ToolDefinition) := do
  Catalog.parse (← file.mapError .file)

/-- Reads settings from a file. -/
def Settings.load (file : FileText) : Except DiscoveryError Settings := do
  Settings.parse (← file.mapError .file)

namespace CommandLine

/-- What a search shows in JSON. -/
def searchJson (outcome : SearchOutcome) : Json :=
  .object [("hits", .array (outcome.hits.map Hit.toJson)),
    ("newly_expanded", .array (outcome.unlocked.map .string))]

/-- What a search shows. -/
def showSearch (json : Bool) (outcome : SearchOutcome) : String :=
  if json then (searchJson outcome).pretty else outcome.text

/-- What an inspection shows in JSON. -/
def inspectionJson (indexed : IndexedCatalog) (visible : List String) : Json :=
  .object [("budget", indexed.budget.toJson), ("deferred", .boolean indexed.isDeferred),
    ("visible_tools", .array (visible.map .string))]

/-- What an inspection shows in words. -/
def inspectionText (indexed : IndexedCatalog) (visible : List String) : String :=
  "\n".intercalate [
    "tools:            " ++ toString indexed.budget.toolCount,
    "estimated tokens: " ++ toString indexed.budget.totalTokens,
    "threshold:        " ++ toString indexed.budget.thresholdTokens,
    "mode:             " ++ (if indexed.isDeferred then "deferred" else "direct"),
    "initially visible: " ++ ", ".intercalate visible]

/-- What an inspection shows. -/
def showInspection (json : Bool) (indexed : IndexedCatalog) (visible : List String) : String :=
  if json then (inspectionJson indexed visible).pretty else inspectionText indexed visible

/-- The policy for an invocation. -/
def policyFor (settings? : Option FileText) (contextWindow? : Option Nat) :
    Except DiscoveryError Policy := do
  let settings ← match settings? with
    | none => pure {}
    | some file => Settings.load file
  Policy.ofSettings settings contextWindow?

/-- What the program shows, given the files that it was asked to read. -/
def answer (tools : FileText) (settings? : Option FileText) (contextWindow? : Option Nat)
    (command : Command) : Except DiscoveryError String := do
  let catalog ← Catalog.load tools
  let policy ← policyFor settings? contextWindow?
  let session := policy.initialSession
  let (visible, policy) ← policy.filterTools catalog session
  match command with
  | .search request json => return showSearch json (← policy.search request session)
  | .inspect json =>
    match policy.indexed? with
    | none => return "catalog was not indexed"
    | some indexed => return showInspection json indexed (visible.tools.map (·.name))

/-- What the program leaves behind. -/
structure Result where
  /-- The exit code. -/
  exitCode : UInt8
  /-- What is written to the standard output. -/
  output : String
  /-- What is written to the standard error output. -/
  errors : String
deriving DecidableEq, Repr

/-- The result of arguments that do not make the program do its work. Faults are shown without
styles. -/
def Result.ofHalt : Halt → Result
  | .fault fault => ⟨2, "", Styled.plain fault.message ++ "\n"⟩
  | .notice notice => ⟨0, noticeText notice ++ "\n", ""⟩

/-- The result of running the program. -/
def Result.ofRun : Except DiscoveryError String → Result
  | .ok text => ⟨0, text ++ "\n", ""⟩
  | .error error => ⟨1, "", "Error: " ++ error.message ++ "\n"⟩

end CommandLine

/-- The result for an invocation, given the files that it names. -/
def Invocation.result (invocation : Invocation) (tools : FileText) (settings? : Option FileText) :
    CommandLine.Result :=
  .ofRun (CommandLine.answer tools settings? invocation.contextWindow? invocation.command)

end ToolDiscovery
