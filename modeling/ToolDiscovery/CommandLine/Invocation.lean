import ToolDiscovery.Catalog.Mode
import ToolDiscovery.CommandLine.Options
import ToolDiscovery.Discovery.Request

/-!
# Invocations

An `Invocation` is what the program is asked to do: with which catalog, which settings and which
context window, and whether to search in the catalog or to inspect it.
-/

namespace ToolDiscovery

/-- What to do with a catalog. -/
inductive Command where
  /-- To search as a model does that has searched for nothing yet. -/
  | search (request : SearchRequest) (json : Bool)
  /-- To tell what it costs and whether its tools are hidden. -/
  | inspect (json : Bool)
deriving DecidableEq, Repr

/-- What the program is asked to do. -/
structure Invocation where
  /-- The path of the catalog. -/
  toolsPath : String
  /-- The path of the settings, if there are any. -/
  settingsPath? : Option String
  /-- The context window of the model, if it is known. -/
  contextWindow? : Option Nat
  /-- What to do. -/
  command : Command
deriving DecidableEq, Repr

namespace CommandLine

/-- The name of the program. -/
def program : String := "cinch-search"

/-- What the program is for. -/
def about : String := "Search a tool catalog the way an agent's `search_tools` call would"

/-! ## The commands -/

/-- What has been noted of a search. -/
structure SearchDraft where
  query : Option String := none
  mode : Option SearchMode := none
  limit : Option Nat := none
  json : Bool := false

/-- The arguments of a search: a query, and options. -/
def searchLevel : Level SearchDraft where
  options :=
    [.reading "mode" "MODE" SearchMode.parse (·.mode)
        fun draft mode => { draft with mode := some mode },
      .reading "limit" "LIMIT" readNumber (·.limit)
        fun draft limit => { draft with limit := some limit },
      .switch "json" (·.json) fun draft => { draft with json := true },
      .asking "help" 'h' (.help (some "search"))]
  plain? argument draft :=
    if draft.query.isSome then none else some { draft with query := some argument }

/-- Reads a search. -/
def readSearch (arguments : List String) : Except Halt Command := do
  let (progress, _) ← searchLevel.scan false { draft := {} } arguments
  let draft ← Level.settlePending progress
  match draft.query with
  | none => .error (.fault .argumentsRequired)
  | some query => return .search { query, mode? := draft.mode, limit? := draft.limit } draft.json

/-- The arguments of an inspection: options. -/
def inspectLevel : Level Bool where
  options := [.switch "json" id fun _ => true, .asking "help" 'h' (.help (some "inspect"))]

/-- Reads an inspection. -/
def readInspect (arguments : List String) : Except Halt Command := do
  let (progress, _) ← inspectLevel.scan false { draft := false } arguments
  return .inspect (← Level.settlePending progress)

/-- The commands by name, with what reads their arguments. -/
def commands : List (String × (List String → Except Halt Command)) :=
  [("search", readSearch), ("inspect", readInspect)]

/-- The command that asks for help. -/
def helpCommand : String := "help"

/-! ## The program -/

/-- What has been noted before the command. -/
structure ProgramDraft where
  toolsPath : Option String := none
  settingsPath : Option String := none
  contextWindow : Option Nat := none

/-- The arguments of the program: options, and a command. -/
def programLevel : Level ProgramDraft where
  options :=
    [.path "tools" "TOOLS" (·.toolsPath) fun draft path => { draft with toolsPath := some path },
      .path "config" "CONFIG" (·.settingsPath)
        fun draft path => { draft with settingsPath := some path },
      .reading "context-window" "CONTEXT_WINDOW" readNumber (·.contextWindow)
        fun draft window => { draft with contextWindow := some window },
      .asking "help" 'h' (.help none),
      .asking "version" 'V' .version]
  commands := commands.map (·.1) ++ [helpCommand]

/-- What comes of a wish for help on a command. Commands have no commands of their own. -/
def helpOn : (names : List String) → Halt
  | [] => .notice (.help none)
  | name :: rest =>
    if !programLevel.commands.contains name then .fault (.unknownCommand name)
    else
      match rest with
      | [] => .notice (.help (some name))
      | other :: _ => .fault (.unknownCommand other)

/-- The fault that there is no command. -/
def withoutCommand (draft : ProgramDraft) : UsageFault :=
  if programLevel.options.any (·.given draft) then .commandRequired program else .nothingGiven about

/-- Reads the arguments of the program. Those of the command come before the last option before
it. -/
def parse (arguments : List String) : Except Halt Invocation := do
  let (progress, command?) ← programLevel.scan false { draft := {} } arguments
  match command? with
  | none => .error (.fault (withoutCommand (← Level.settlePending progress)))
  | some (name, rest) =>
    match commands.lookup name with
    | none => .error (if name = helpCommand then helpOn rest else .fault (.unknownCommand name))
    | some read => do
      let command ← read rest
      let draft ← Level.settlePending progress
      match draft.toolsPath with
      | none => .error (.fault .argumentsRequired)
      | some toolsPath =>
        return {
          toolsPath
          settingsPath? := draft.settingsPath
          contextWindow? := draft.contextWindow
          command }

/-! ## Notices -/

/-- The arguments of a command, as help shows them. -/
def usage : (command? : Option String) → String
  | some "search" => " search [OPTIONS] <QUERY>"
  | some "inspect" => " inspect [OPTIONS]"
  | some "help" => " help [COMMAND]..."
  | _ => " [OPTIONS] --tools <TOOLS> <COMMAND>"

/-- The wording of a notice. -/
def noticeText : Notice → String
  | .help command? => about ++ "\n\nUsage: " ++ program ++ usage command?
  | .version => program

end CommandLine

end ToolDiscovery
