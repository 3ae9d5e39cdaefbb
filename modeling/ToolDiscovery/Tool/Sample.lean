import ToolDiscovery.Tool.Basic

/-!
# Sample tools

Functions of arguments that are simple enough to try out how tools are called.
-/

namespace ToolDiscovery.Sample

open Json (Decoder Record Field)

variable {σ : Type}

/-- The arguments of an echo. -/
def echoRecord : Record (Option String) String where
  name := "EchoArgs"
  fields := [.of "text" .string id fun _ text => some text]
  blank := none
  finish
    | some text => .ok text
    | none => .error "text"

/-- Gives back its text. -/
def echo (definition : ToolDefinition) : Tool σ := .ofFunction definition echoRecord.decoder id

/-- A text that is to be repeated. -/
structure Repetition where
  /-- What is repeated. -/
  unit : String
  /-- How often. -/
  times : Nat
  /-- What stands between. -/
  separator : String := ""

/-- A repeated text. -/
def Repetition.text (repetition : Repetition) : String :=
  repetition.separator.intercalate (List.replicate repetition.times repetition.unit)

/-- What has been read of a repetition. -/
structure RepetitionDraft where
  unit : Option String := none
  times : Option Nat := none
  separator : Option (Option String) := none

/-- The arguments of a repetition, whose separator may be left out. -/
def repetitionRecord : Record RepetitionDraft Repetition where
  name := "RepeatArgs"
  fields :=
    [.of "unit" .string (·.unit) fun draft unit => { draft with unit := some unit },
      .of "times" .smallCount (·.times) fun draft times => { draft with times := some times },
      .of "sep" (.option .string) (·.separator)
        (fun draft separator => { draft with separator := some separator }) true]
  blank := {}
  finish draft :=
    match draft.unit, draft.times with
    | none, _ => .error "unit"
    | _, none => .error "times"
    | some unit, some times => .ok { unit, times, separator := draft.separator.join.getD "" }

/-- Repeats a text. -/
def repeating (definition : ToolDefinition) : Tool σ :=
  .ofFunction definition repetitionRecord.decoder Repetition.text

/-- Gives back any arguments in JSON. -/
def compacting (definition : ToolDefinition) : Tool σ := .ofFunction definition .json Json.compact

end ToolDiscovery.Sample
