import ToolDiscovery.Json.Fault

/-!
# Reading a text from left to right

A `Cursor` is a place in a text together with what follows it. A `Reader` moves the cursor on and
gives a result or a fault; after a fault the cursor still says how much of the text was taken.
-/

namespace ToolDiscovery.Json

/-- A place in a text that is being read. -/
structure Cursor where
  /-- What follows. -/
  rest : List Char
  /-- Where the cursor stands. -/
  position : Position := ⟨1, 0⟩
  /-- The length of the whole text, which bounds every repetition. -/
  size : Nat

/-- The cursor at the start of a text. -/
def Cursor.start (text : String) : Cursor :=
  let characters := text.toList
  { rest := characters, size := characters.length }

/-- The position after a character. -/
def Position.after (p : Position) (c : Char) : Position :=
  if c = '\n' then ⟨p.line + 1, 0⟩ else ⟨p.line, p.column + c.utf8Size⟩

/-- The position `count` bytes further on, where the last character may be taken in part. -/
def Position.afterBytes : Position → (count : Nat) → List Char → Position
  | p, _, [] => p
  | p, count, c :: rest =>
    if count = 0 then p
    else if c.utf8Size ≤ count then (p.after c).afterBytes (count - c.utf8Size) rest
    else ⟨p.line, p.column + count⟩

/-- Reads a part of a text. -/
abbrev Reader (α : Type) := EStateM Fault Cursor α

/-- Fails at the place of the cursor. -/
def failHere {α : Type} (fault : SyntaxFault) : Reader α := fun cursor =>
  .error ⟨.malformed fault, some cursor.position⟩ cursor

/-- Fails at the next byte. -/
def failNext {α : Type} (fault : SyntaxFault) : Reader α := fun cursor =>
  .error ⟨.malformed fault, some (cursor.position.afterBytes 1 cursor.rest)⟩ cursor

/-- Fails with a cause whose position the surrounding value gives. -/
def failWith {α : Type} (cause : Cause) : Reader α := fun cursor => .error ⟨cause, none⟩ cursor

/-- Fails with a cause at the place of the cursor. -/
def failAt {α : Type} (cause : Cause) : Reader α := fun cursor =>
  .error ⟨cause, some cursor.position⟩ cursor

/-- The next character, which stays where it is. -/
def peek? : Reader (Option Char) := fun cursor => .ok cursor.rest.head? cursor

/-- Takes the next character. -/
def skipChar : Reader Unit := fun cursor =>
  match cursor.rest with
  | [] => .ok () cursor
  | c :: rest => .ok () { cursor with rest, position := cursor.position.after c }

/-- Takes the characters while they satisfy `p`. -/
def Cursor.dropWhile (p : Char → Bool) (cursor : Cursor) : Cursor :=
  let taken := cursor.rest.takeWhile p
  { cursor with
    rest := cursor.rest.dropWhile p
    position := taken.foldl Position.after cursor.position }

/-- Takes the characters while they satisfy `p`, and gives them. -/
def takeWhile (p : Char → Bool) : Reader (List Char) := fun cursor =>
  .ok (cursor.rest.takeWhile p) (cursor.dropWhile p)

/-- The four white space characters of JSON. -/
def isSpace (c : Char) : Bool := c == ' ' || c == '\n' || c == '\t' || c == '\r'

/-- Takes white space, and gives the character after it, which stays where it is. -/
def peekToken? : Reader (Option Char) := fun cursor =>
  let cursor := cursor.dropWhile isSpace
  .ok cursor.rest.head? cursor

/-- Takes the characters of a word that is already known by its first one. -/
def expectIdent : List Char → Reader Unit
  | [] => pure ()
  | expected :: more => do
    match ← peek? with
    | none => failHere .endInValue
    | some c =>
      if c = expected then
        skipChar
        expectIdent more
      else failNext .expectedIdent

/-- The bound of the repetitions in the text. -/
def bound : Reader Nat := fun cursor => .ok (cursor.size + 1) cursor

/-- Runs a reader, and then another one whether or not the first one failed. The first fault counts;
if it has no position yet, it gets that of the cursor in the end. -/
def thenClose {α : Type} (body : Reader α) (close : Reader Unit) : Reader α := fun cursor =>
  match body cursor with
  | .ok result cursor =>
    match close cursor with
    | .ok _ cursor => .ok result cursor
    | .error fault cursor => .error fault cursor
  | .error fault cursor =>
    match close cursor with
    | .ok _ cursor => .error (fault.located cursor.position) cursor
    | .error _ cursor => .error (fault.located cursor.position) cursor

end ToolDiscovery.Json
