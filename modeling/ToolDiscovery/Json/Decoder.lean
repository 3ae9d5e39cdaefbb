import ToolDiscovery.Json.Skip

/-!
# Decoders

A `Decoder` gives the values of a type from two kinds of input: from a text, where the first fault
in reading order is reported with its position, and from a JSON value that has already been read.
-/

namespace ToolDiscovery.Json

/-- How the values of a type are read. -/
structure Decoder (α : Type) where
  /-- Reads from a text, with the given depth left for brackets. -/
  fromText : (depth : Nat) → Reader α
  /-- Reads from a value. -/
  fromJson : Json → Except Fault α

namespace Decoder

variable {α β : Type}

/-- Reads a text to its end. -/
def decodeText (decoder : Decoder α) (text : String) : Except Fault α :=
  readAll (decoder.fromText maxDepth) text

/-- Changes what has been read. -/
def map (f : α → β) (decoder : Decoder α) : Decoder β where
  fromText depth := return f (← decoder.fromText depth)
  fromJson json := return f (← decoder.fromJson json)

/-- Fails because a value of another type is expected. Lists and objects are met at their bracket,
everything else at its end. -/
def failExpected (expected : String) : Char → Reader α
  | '[' => failAt (.wrongType .sequence expected)
  | '\x7b' => failAt (.wrongType .map expected)
  | c => do failAt (.wrongType (.ofJson (← scalar c)) expected)

/-- Reads a value that starts with certain characters, and fails at all others. -/
def starting (expected : String) (reader : Char → Option (Reader α)) : Reader α := do
  match ← peekToken? with
  | none => failHere .endInValue
  | some c => (reader c).getD (failExpected expected c)

/-- The fault that a value of another type is expected. -/
def wrongType (json : Json) (expected : String) : Except Fault α :=
  .error ⟨.wrongType (.ofJson json) expected, none⟩

/-- Reads any value. -/
def json : Decoder Json where
  fromText := value
  fromJson := .ok

/-- Reads a text. -/
def string (expected : String := "a string") : Decoder String where
  fromText _ := starting expected fun
    | '"' => some do
      skipChar
      stringBody
    | _ => none
  fromJson
    | .string text => .ok text
    | json => wrongType json expected

/-- Reads a truth value. -/
def boolean : Decoder Bool where
  fromText _ := starting "a boolean" fun
    | 't' => some do
      skipChar
      expectIdent "rue".toList
      pure true
    | 'f' => some do
      skipChar
      expectIdent "alse".toList
      pure false
    | _ => none
  fromJson
    | .boolean value => .ok value
    | json => wrongType json "a boolean"

/-- Reads the absent value. -/
def unit : Decoder Unit where
  fromText _ := starting "unit" fun
    | 'n' => some do
      skipChar
      expectIdent "ull".toList
    | _ => none
  fromJson
    | .null => .ok ()
    | json => wrongType json "unit"

/-- Reads a number and accepts some. -/
def number (expected : String) (accept : Json → Except Cause α) : Decoder α where
  fromText _ := starting expected fun c =>
    if c = '-' ∨ isDigit c then some do
      match accept (← scalar c) with
      | .ok result => pure result
      | .error cause => failAt cause
    else none
  fromJson json := (accept json).mapError fun cause => ⟨cause, none⟩

/-- Reads a whole number from zero up to a greatest one. -/
def natural (expected : String) (greatest : Nat) : Decoder Nat :=
  number expected fun
    | .integer n =>
      if 0 ≤ n ∧ n ≤ greatest then .ok n.toNat else .error (.wrongValue (.integer n) expected)
    | json => .error (.wrongType (.ofJson json) expected)

/-- Sizes and counts are whole numbers of 64 bits. -/
def size : Decoder Nat := natural "usize" maxInteger

/-- Small counts are whole numbers of 16 bits. -/
def smallCount : Decoder Nat := natural "u16" 0xffff

/-- The floating-point number nearest to a whole number. -/
def realOfInteger (n : Int) : Float :=
  if n < 0 then -n.natAbs.toUInt64.toFloat else n.natAbs.toUInt64.toFloat

/-- Reads a number as a floating-point number. -/
def real : Decoder Float :=
  number "f64" fun
    | .real x => .ok x
    | .integer n => .ok (realOfInteger n)
    | json => .error (.wrongType (.ofJson json) "f64")

/-- Reads a value that may be absent. -/
def option (decoder : Decoder α) : Decoder (Option α) where
  fromText depth := do
    match ← peekToken? with
    | some 'n' =>
      skipChar
      expectIdent "ull".toList
      pure none
    | _ => return some (← decoder.fromText depth)
  fromJson
    | .null => .ok none
    | json => return some (← decoder.fromJson json)

/-- Reads a list. -/
def list (decoder : Decoder α) : Decoder (List α) where
  fromText depth := starting "a sequence" fun
    | '[' => some <| nested depth fun depth =>
      let items := do
        return (← foldItems (fun items => return (← decoder.fromText depth) :: items)
          (← bound) true []).reverse
      thenClose items closeList
    | _ => none
  fromJson
    | .array items => items.mapM decoder.fromJson
    | json => wrongType json "a sequence"

end Decoder

/-- What belongs to the name of a variant. -/
inductive Payload (α : Type) where
  /-- Nothing: the name alone gives the value. -/
  | none (value : α)
  /-- A value that is read. -/
  | value (decoder : Decoder α)

/-- The variants of a type, by name. -/
abbrev Variants (α : Type) := List (String × Payload α)

namespace Variants

variable {α : Type}

/-- The variant of a name. -/
def find (variants : Variants α) (name : String) : Except Cause (Payload α) :=
  match variants.lookup name with
  | some payload => .ok payload
  | none => .error (.unknownVariant name (variants.map (·.1)))

/-- Reads the name of a variant. -/
def readName (variants : Variants α) (depth : Nat) : Reader (Payload α) := do
  let name ← (Decoder.string "variant identifier").fromText depth
  match variants.find name with
  | .ok payload => pure payload
  | .error cause => failAt cause

/-- A variant by its name alone needs to have no value of its own. -/
def Payload.bare : Payload α → Except Cause α
  | .none value => .ok value
  | .value _ => .error (.wrongType .unitVariant "newtype variant")

/-- Reads the value that belongs to a variant. -/
def Payload.decoder : Payload α → Decoder α
  | .none value => Decoder.unit.map fun _ => value
  | .value decoder => decoder

/-- Takes the bracket after the value of a variant. -/
def closeVariant : Reader Unit := do
  match ← peekToken? with
  | none => failHere .endInObject
  | some '\x7d' => skipChar
  | some _ => failHere .expectedValue

/-- Reads a variant, which is a name, or an object with the name as its only key. -/
def decoder (variants : Variants α) : Decoder α where
  fromText depth := do
    match ← peekToken? with
    | none => failHere .endInValue
    | some '\x7b' =>
      nested depth fun depth => do
        let payload ← variants.readName depth
        colon
        let result ← (Payload.decoder payload).fromText depth
        closeVariant
        pure result
    | some '"' =>
      match Payload.bare (← variants.readName depth) with
      | .ok value => pure value
      | .error cause => failWith cause
    | some _ => failNext .expectedValue
  fromJson
    | .string name =>
      ((variants.find name).bind Payload.bare).mapError fun cause => ⟨cause, none⟩
    | .object [(name, json)] =>
      match variants.find name with
      | .ok payload => (Payload.decoder payload).fromJson json
      | .error cause => .error ⟨cause, none⟩
    | .object _ => .error ⟨.wrongValue .map "map with a single key", none⟩
    | json => Decoder.wrongType json "string or map"

end Variants

end ToolDiscovery.Json
