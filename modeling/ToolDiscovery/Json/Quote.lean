import ToolDiscovery.Json.Cursor
import ToolDiscovery.Text.RangeTable

/-!
# Reading texts between quotes

A text runs from one quote to the next. Control characters may not stand in it; a backslash
introduces an escape, and characters outside of the basic plane may be written as two of them.
-/

namespace ToolDiscovery.Json

/-- The four hexadecimal digits of an escape. They are taken as four bytes, whatever these are. -/
def hexEscape : Reader Nat := fun cursor =>
  let p := cursor.position.afterBytes 4 cursor.rest
  let taken := cursor.rest.take 4
  if (taken.foldl (fun size c => size + c.utf8Size) 0) < 4 then
    .error ⟨.malformed .endInString, some p⟩ cursor
  else
    match taken.mapM RangeTable.hexDigit? with
    | some [a, b, c, d] =>
      .ok (((a * 16 + b) * 16 + c) * 16 + d)
        { cursor with rest := cursor.rest.drop 4, position := p }
    | _ => .error ⟨.malformed .invalidEscape, some p⟩ cursor

/-- Whether a number is the first half of a pair of surrogates. -/
def isLeadingSurrogate (n : Nat) : Bool := 0xD800 ≤ n && n ≤ 0xDBFF

/-- Whether a number is the second half of a pair of surrogates. -/
def isTrailingSurrogate (n : Nat) : Bool := 0xDC00 ≤ n && n ≤ 0xDFFF

/-- Takes a character that must come next in a pair of escapes. -/
def expectInPair (expected : Char) : Reader Unit := do
  match ← peek? with
  | none => failHere .endInString
  | some c => if c = expected then skipChar else failNext .endOfHexEscape

/-- The character of an escape by number, whose two first characters have been read. A leading
surrogate must be followed by an escape with a trailing one. -/
def unicodeEscape : Reader Char := do
  let first ← hexEscape
  if isTrailingSurrogate first then failHere .loneSurrogate
  else if isLeadingSurrogate first then
    expectInPair '\\'
    expectInPair 'u'
    let second ← hexEscape
    if isTrailingSurrogate second then
      pure (Char.ofNat (0x10000 + (first - 0xD800) * 0x400 + (second - 0xDC00)))
    else failHere .loneSurrogate
  else pure (Char.ofNat first)

/-- The character that a one-letter escape stands for. -/
def simpleEscape? : Char → Option Char
  | '"' => some '"'
  | '\\' => some '\\'
  | '/' => some '/'
  | 'b' => some '\x08'
  | 'f' => some '\x0c'
  | 'n' => some '\n'
  | 'r' => some '\r'
  | 't' => some '\t'
  | _ => none

/-- The character of an escape whose backslash has been read. -/
def escape : Reader Char := do
  match ← peek? with
  | none => failHere .endInString
  | some 'u' => do
    skipChar
    unicodeEscape
  | some c =>
    match simpleEscape? c with
    | some meant => do
      skipChar
      pure meant
    | none => failNext .invalidEscape

/-- Whether a character stands for itself inside a text. -/
def isPlain (c : Char) : Bool := c != '"' && c != '\\' && !(c.toNat < 0x20)

/-- The rest of a text after the characters that have been read, which are given backwards. -/
def stringAfter : (fuel : Nat) → List Char → Reader String
  | 0, _ => failHere .endInString
  | fuel + 1, read => do
    let plain ← takeWhile isPlain
    let read := plain.reverse ++ read
    match ← peek? with
    | none => failHere .endInString
    | some '"' => do
      skipChar
      pure (.ofList read.reverse)
    | some '\\' => do
      skipChar
      let meant ← escape
      stringAfter fuel (meant :: read)
    | some _ => failNext .controlCharacter

/-- The text after a quote that has been read. -/
def stringBody : Reader String := do stringAfter (← bound) []

end ToolDiscovery.Json
