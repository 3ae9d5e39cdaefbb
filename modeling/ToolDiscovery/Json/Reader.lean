import ToolDiscovery.Json.Number
import ToolDiscovery.Json.Quote

/-!
# Reading JSON

`Json.read` reads a text as one JSON value. The text is read once from left to right, and the first
fault is reported. Brackets may be nested at most 127 deep.
-/

namespace ToolDiscovery.Json

/-- One more than the depth to which brackets may be nested. -/
def maxDepth : Nat := 128

/-- Reads a bracket and what it holds, with the depth that is left inside. -/
def nested {α : Type} (depth : Nat) (body : Nat → Reader α) : Reader α :=
  match depth with
  | 0 | 1 => failNext .recursionLimit
  | depth + 1 => do
    skipChar
    body depth

/-- Whether a list goes on. A comma is taken. -/
def hasItem (first : Bool) : Reader Bool := do
  match ← peekToken? with
  | none => failHere .endInList
  | some ']' => pure false
  | some c =>
    if first then pure true
    else if c = ',' then
      skipChar
      match ← peekToken? with
      | none => failHere .endInValue
      | some ']' => failNext .trailingComma
      | some _ => pure true
    else failNext .expectedListCommaOrEnd

/-- Takes the bracket that ends a list. -/
def closeList : Reader Unit := do
  match ← peekToken? with
  | none => failHere .endInList
  | some ']' => skipChar
  | some ',' => do
    skipChar
    match ← peekToken? with
    | some ']' => failNext .trailingComma
    | _ => failNext .trailingCharacters
  | some _ => failNext .trailingCharacters

/-- Whether an object goes on. A comma and the quote of the key are taken. -/
def hasMember (first : Bool) : Reader Bool := do
  match ← peekToken? with
  | none => failHere .endInObject
  | some '\x7d' => pure false
  | some c =>
    if first then key c
    else if c = ',' then
      skipChar
      match ← peekToken? with
      | none => failHere .endInValue
      | some '\x7d' => failNext .trailingComma
      | some c => key c
    else failNext .expectedObjectCommaOrEnd
where
  /-- Takes the quote of a key. -/
  key (c : Char) : Reader Bool := do
    if c = '"' then
      skipChar
      pure true
    else failNext .keyMustBeString

/-- Takes the bracket that ends an object. -/
def closeObject : Reader Unit := do
  match ← peekToken? with
  | none => failHere .endInObject
  | some '\x7d' => skipChar
  | some ',' => failNext .trailingComma
  | some _ => failNext .trailingCharacters

/-- Takes the colon between a key and its value. -/
def colon : Reader Unit := do
  match ← peekToken? with
  | none => failHere .endInObject
  | some ':' => skipChar
  | some _ => failNext .expectedColon

/-- Reads the items of a list one after the other into a result. -/
def foldItems {σ : Type} (step : σ → Reader σ) : (fuel : Nat) → Bool → σ → Reader σ
  | 0, _, state => pure state
  | fuel + 1, first, state => do
    if ← hasItem first then
      let state ← step state
      foldItems step fuel false state
    else pure state

/-- Reads the members of an object one after the other into a result. -/
def foldMembers {σ : Type} (step : σ → String → Reader σ) : (fuel : Nat) → Bool → σ → Reader σ
  | 0, _, state => pure state
  | fuel + 1, first, state => do
    if ← hasMember first then
      let state ← step state (← stringBody)
      foldMembers step fuel false state
    else pure state

/-- Reads a value that is neither a list nor an object and starts with the given character. -/
def scalar (c : Char) : Reader Json :=
  match c with
  | 'n' => do
    skipChar
    expectIdent "ull".toList
    pure .null
  | 't' => do
    skipChar
    expectIdent "rue".toList
    pure (.boolean true)
  | 'f' => do
    skipChar
    expectIdent "alse".toList
    pure (.boolean false)
  | '"' => do
    skipChar
    return .string (← stringBody)
  | '-' => do
    skipChar
    number true
  | c => if isDigit c then number false else failNext .expectedValue

/-- Reads a value with the given depth left for its brackets. -/
def value : (depth : Nat) → Reader Json
  | 0 => failNext .recursionLimit
  | depth + 1 => do
    match ← peekToken? with
    | none => failHere .endInValue
    | some '[' => nested (depth + 1) fun _ => do
      let items := do
        let item (items : List Json) : Reader (List Json) := return (← value depth) :: items
        return (← foldItems item (← bound) true []).reverse
      return .array (← thenClose items closeList)
    | some '\x7b' => nested (depth + 1) fun _ => do
      let member (members : Members) (key : String) : Reader Members := do
        colon
        return insertMember key (← value depth) members
      let members := do foldMembers member (← bound) true []
      return .object (← thenClose members closeObject)
    | some c => scalar c

/-- Reads a text to its end, after which only white space may follow. -/
def readAll {α : Type} (reader : Reader α) (text : String) : Except Fault α :=
  let whole : Reader α := do
    let result ← reader
    match ← peekToken? with
    | none => pure result
    | some _ => failNext .trailingCharacters
  match whole (.start text) with
  | .ok result _ => .ok result
  | .error fault _ => .error fault

/-- Reads a text as one JSON value. -/
def read (text : String) : Except Fault Json := readAll (value maxDepth) text

end ToolDiscovery.Json
