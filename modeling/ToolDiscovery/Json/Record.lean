import ToolDiscovery.Json.Decoder

/-!
# Reading records

A record is read from an object, whose members may stand in any order, or from a list of its fields
in their order. Members that are no fields are passed over. The fields that have been read are
collected in a draft, from which the record is made in the end.
-/

namespace ToolDiscovery.Json

/-- A field of a record that is collected in drafts of type `δ`. -/
structure Field (δ : Type) where
  /-- The key of the field. -/
  name : String
  /-- Whether the field may be left out at the end of a list. -/
  optional : Bool
  /-- Whether a draft has the field. -/
  given : δ → Bool
  /-- Reads the field into a draft. -/
  decoder : Decoder (δ → δ)

/-- A field by the place that it has in a draft. -/
def Field.of {δ β : Type} (name : String) (decoder : Decoder β) (get : δ → Option β)
    (set : δ → β → δ) ( optional : Bool := false) : Field δ where
  name := name
  optional := optional
  given draft := (get draft).isSome
  decoder := decoder.map fun read draft => set draft read

/-- A type of records. -/
structure Record (δ α : Type) where
  /-- The name of the type in messages. -/
  name : String
  /-- The fields in their order. -/
  fields : List (Field δ)
  /-- The draft without any field. -/
  blank : δ
  /-- Makes the record, or gives the name of a field that is missing. -/
  finish : δ → Except String α

namespace Record

variable {δ α : Type}

/-- What is expected when a list is too short. -/
def lengthExpected (record : Record δ α) : String :=
  let count := record.fields.length
  "struct " ++ record.name ++ " with " ++ toString count ++
    (if count = 1 then " element" else " elements")

/-- Makes the record from what has been read. -/
def make (record : Record δ α) (draft : δ) : Except Cause α :=
  (record.finish draft).mapError .missingField

/-- The cause of a fault if one of the remaining fields of a list, the first of which has the given
index, may not be left out. -/
def shortage? (record : Record δ α) : (index : Nat) → List (Field δ) → Option Cause
  | _, [] => none
  | index, field :: rest =>
    if field.optional then record.shortage? (index + 1) rest
    else some (.wrongLength index record.lengthExpected)

/-- Reads the fields of a list. -/
def readItems (record : Record δ α) (depth : Nat) :
    (index : Nat) → List (Field δ) → δ → Reader δ
  | _, [], draft => pure draft
  | index, field :: rest, draft => do
    if ← hasItem (index == 0) then
      record.readItems depth (index + 1) rest ((← field.decoder.fromText depth) draft)
    else
      match record.shortage? index (field :: rest) with
      | some cause => failWith cause
      | none => pure draft

/-- Reads the value of a member into a draft. -/
def readMember (record : Record δ α) (depth : Nat) (draft : δ) (key : String) : Reader δ := do
  match record.fields.find? (·.name == key) with
  | none =>
    colon
    skipValue
    pure draft
  | some field =>
    if field.given draft then failWith (.duplicateField key)
    else
      colon
      return (← field.decoder.fromText depth) draft

/-- Makes the record in the course of reading. -/
def readEnd (record : Record δ α) (draft : δ) : Reader α :=
  match record.make draft with
  | .ok result => pure result
  | .error cause => failWith cause

/-- Reads the fields from the items of a list. -/
def fromItems (record : Record δ α) : (index : Nat) → List (Field δ) → List Json → δ →
    Except Fault δ
  | _, [], _, draft => .ok draft
  | index, field :: rest, [], draft =>
    match record.shortage? index (field :: rest) with
    | some cause => .error ⟨cause, none⟩
    | none => .ok draft
  | index, field :: rest, json :: items, draft => do
    record.fromItems (index + 1) rest items ((← field.decoder.fromJson json) draft)

/-- Reads the value of a member into a draft. -/
def fromMember (record : Record δ α) (draft : δ) (member : String × Json) : Except Fault δ :=
  match record.fields.find? (·.name == member.1) with
  | none => .ok draft
  | some field => return (← field.decoder.fromJson member.2) draft

/-- Reads a record. -/
def decoder (record : Record δ α) : Decoder α where
  fromText depth := Decoder.starting ("struct " ++ record.name) fun
    | '[' => some <| nested depth fun depth =>
      let items := do record.readEnd (← record.readItems depth 0 record.fields record.blank)
      thenClose items closeList
    | '\x7b' => some <| nested depth fun depth =>
      let members := do
        record.readEnd (← foldMembers (record.readMember depth) (← bound) true record.blank)
      thenClose members closeObject
    | _ => none
  fromJson
    | .array items => do
      let draft ← record.fromItems 0 record.fields items record.blank
      if record.fields.length < items.length then
        .error ⟨.wrongLength items.length "fewer elements in array", none⟩
      else (record.make draft).mapError fun cause => ⟨cause, none⟩
    | .object members => do
      let draft ← members.foldlM record.fromMember record.blank
      (record.make draft).mapError fun cause => ⟨cause, none⟩
    | json => Decoder.wrongType json ("struct " ++ record.name)

end Record

end ToolDiscovery.Json
