import ToolDiscovery.Json.Reader

/-!
# Passing over a value

The value of a member that nobody asked for is passed over: its brackets, quotes, commas and colons
must be right, but it may be nested to any depth, its numbers may have any size, and its escapes
need not denote characters.
-/

namespace ToolDiscovery.Json

/-- A bracket that has been opened. -/
inductive Bracket where
  | list
  | object
deriving DecidableEq, Repr

/-- Passes over at least one digit. -/
def skipDigits : Reader Unit := do
  let digits ← takeWhile isDigit
  if digits.isEmpty then failNext .invalidNumber

/-- Passes over an exponent if there is one. -/
def skipExponent : Reader Unit := do
  match ← peek? with
  | some 'e' | some 'E' => do
    skipChar
    let sign ← peek?
    if sign = some '+' ∨ sign = some '-' then skipChar
    skipDigits
  | _ => pure ()

/-- Passes over a number whose sign has been read. -/
def skipNumber : Reader Unit := do
  if (← peek?) = some '0' then
    skipChar
    if ((← peek?).map isDigit).getD false then failNext .invalidNumber
  else skipDigits
  if (← peek?) = some '.' then
    skipChar
    skipDigits
  skipExponent

/-- Passes over an escape whose backslash has been read. -/
def skipEscape : Reader Unit := do
  match ← peek? with
  | none => failHere .endInString
  | some 'u' => do
    skipChar
    let _ ← hexEscape
  | some c => if (simpleEscape? c).isSome then skipChar else failNext .invalidEscape

/-- Passes over the rest of a text, up to and with its last quote. -/
def skipStringAfter : (fuel : Nat) → Reader Unit
  | 0 => failHere .endInString
  | fuel + 1 => do
    let _ ← takeWhile isPlain
    match ← peek? with
    | none => failHere .endInString
    | some '"' => skipChar
    | some '\\' => do
      skipChar
      skipEscape
      skipStringAfter fuel
    | some _ => failHere .controlCharacter

/-- Passes over the text after a quote that has been read. -/
def skipString : Reader Unit := do skipStringAfter (← bound)

/-- Passes over a key, from its quote on, and the colon after it. -/
def skipKey : Reader Unit := do
  match ← peekToken? with
  | none => failHere .endInObject
  | some '"' => do
    skipChar
    skipString
    colon
  | some _ => failNext .keyMustBeString

/-- Passes over a value that is neither a list nor an object, or opens a bracket. -/
def skipScalar : Reader (Option Bracket) := do
  match ← peekToken? with
  | none => failHere .endInValue
  | some '[' => do
    skipChar
    pure (some .list)
  | some '\x7b' => do
    skipChar
    pure (some .object)
  | some '-' => do
    skipChar
    skipNumber
    pure none
  | some '"' => do
    skipChar
    skipString
    pure none
  | some c => do
    if isDigit c then skipNumber
    else
      let _ ← scalar c
    pure none

/-- Closes brackets as long as they end, and takes the comma after which the innermost open one goes
on. Gives the brackets that are still open, the innermost first. In a bracket that has just been
opened there is no comma. -/
def closeBrackets : (fuel : Nat) → (afterValue : Bool) → List Bracket → Reader (List Bracket)
  | 0, _, opened => pure opened
  | _, _, [] => pure []
  | fuel + 1, afterValue, bracket :: outer => do
    match ← peekToken?, bracket with
    | none, .list => failHere .endInList
    | none, .object => failHere .endInObject
    | some ']', .list | some '\x7d', .object => do
      skipChar
      closeBrackets fuel true outer
    | some c, _ =>
      if !afterValue then pure (bracket :: outer)
      else if c = ',' then
        skipChar
        pure (bracket :: outer)
      else
        failNext (match bracket with
          | .list => .expectedListCommaOrEnd
          | .object => .expectedObjectCommaOrEnd)

/-- Passes over values until no bracket is open. -/
def skipValues : (fuel : Nat) → List Bracket → Reader Unit
  | 0, _ => pure ()
  | fuel + 1, opened => do
    let next ← skipScalar
    let opened ← closeBrackets (← bound) next.isNone (next.toList ++ opened)
    match opened with
    | [] => pure ()
    | bracket :: _ => do
      if bracket = .object then skipKey
      skipValues fuel opened

/-- Passes over a value. -/
def skipValue : Reader Unit := do skipValues (← bound) []

end ToolDiscovery.Json
