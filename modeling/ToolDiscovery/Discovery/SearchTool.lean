import ToolDiscovery.Discovery.Search
import ToolDiscovery.Tool.Toolbox

/-!
# The search as a tool

The tool `search_tools` searches in the session of a conversation. A call first looks at the session
and, when the search is done, adds to the session what it has unlocked. Between the two, other calls
may have unlocked tools: adding keeps them.
-/

namespace ToolDiscovery

/-- A conversation: who decides what it sees, and what it has unlocked. -/
structure Conversation where
  /-- Decides which tools are shown. -/
  policy : Policy
  /-- What has been unlocked. -/
  session : Session

/-- What a call of the search leads to. -/
structure SearchAnswer where
  /-- What the model is told. -/
  text : String
  /-- What is to be added to the session, if anything was unlocked. -/
  additions? : Option Session := none

namespace SearchAnswer

/-- The answer to a call with the given arguments, for the session that it has looked at. -/
def ofCall (policy : Policy) (session : Session) (arguments : String) : SearchAnswer :=
  match decodeArguments SearchRequest.decoder arguments with
  | .error complaint => { text := complaint }
  | .ok request =>
    match policy.search request session with
    | .error error => { text := "Error: " ++ error.message }
    | .ok outcome =>
      { text := outcome.text
        additions? := if outcome.unlocked.isEmpty then none else some outcome.session }

/-- Adds what was unlocked to a session. -/
def addTo (answer : SearchAnswer) (session : Session) : Session :=
  match answer.additions? with
  | none => session
  | some additions => session.merge additions

end SearchAnswer

/-- The tool that searches for tools in a conversation. -/
def searchTool : Tool Conversation where
  definition := searchToolDefinition
  call arguments := do
    let conversation ← get
    let answer := SearchAnswer.ofCall conversation.policy conversation.session arguments
    set { conversation with session := answer.addTo conversation.session }
    return answer.text

end ToolDiscovery
