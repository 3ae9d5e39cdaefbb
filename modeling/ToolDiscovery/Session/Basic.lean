import ToolDiscovery.Json.Record
import ToolDiscovery.Session.NameSet

/-!
# Sessions

A `Session` is what a conversation remembers of its searches: the names of the tools that they have
unlocked. Names are only ever added, so sessions can be merged in any order.
-/

namespace ToolDiscovery

/-- What a conversation remembers. -/
@[ext]
structure Session where
  /-- The names of the tools that can be seen. -/
  unlocked : NameSet := ∅
deriving DecidableEq

namespace Session

open Json (Decoder Record Field)

/-- A session in which the given tools can be seen. -/
def ofNames (names : List String) : Session := ⟨.ofList names⟩

/-- Whether a tool can be seen. -/
def contains (session : Session) (name : String) : Bool := session.unlocked.contains name

/-- Unlocks a tool. -/
def unlock (session : Session) (name : String) : Session := ⟨session.unlocked.insert name⟩

/-- Unlocks several tools. -/
def unlockMany (session : Session) (names : List String) : Session :=
  ⟨session.unlocked.insertMany names⟩

/-- Adds what another session has unlocked. -/
def merge (session other : Session) : Session := ⟨session.unlocked ∪ other.unlocked⟩

/-- A session in JSON. -/
def toJson (session : Session) : Json :=
  .object [("expanded_tools", .array (session.unlocked.names.map .string))]

/-- A session, whose names may be left out. -/
def record : Record (Option NameSet) Session where
  name := "SessionState"
  fields :=
    [.of "expanded_tools" ((Decoder.list .string).map .ofList) id (fun _ set => some set) true]
  blank := none
  finish set := .ok ⟨set.getD ∅⟩

/-- Reads a session. -/
def decoder : Decoder Session := record.decoder

end Session

end ToolDiscovery
