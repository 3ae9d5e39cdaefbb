import ToolDiscovery.Json.Basic

/-!
# Writing JSON

`Json.compact` writes a value without any white space and `Json.pretty` with one member or item a
line. Both give the same text for equal values, and both escape in texts only what must be escaped.
-/

namespace ToolDiscovery.Json

/-- The digit of a number below sixteen. -/
def hexDigit (n : Nat) : Char := Nat.digitChar n

/-- A character as it stands inside a JSON text. -/
def escapedChar (c : Char) : List Char :=
  match c with
  | '"' => ['\\', '"']
  | '\\' => ['\\', '\\']
  | '\x08' => ['\\', 'b']
  | '\t' => ['\\', 't']
  | '\n' => ['\\', 'n']
  | '\x0c' => ['\\', 'f']
  | '\r' => ['\\', 'r']
  | c =>
    if c.toNat < 0x20 then ['\\', 'u', '0', '0', hexDigit (c.toNat / 16), hexDigit (c.toNat % 16)]
    else [c]

/-- A text between quotes. -/
def stringChars (text : String) : List Char :=
  '"' :: text.toList.flatMap escapedChar ++ ['"']

/-- A whole number. -/
def integerChars (n : Int) : List Char :=
  if n < 0 then '-' :: Nat.toDigits 10 n.natAbs else Nat.toDigits 10 n.natAbs

/-- A floating-point number; what is no number has no JSON form but `null`. -/
def realChars (x : Float) : List Char :=
  if x.isFinite then (numberStyle.render x).toList else "null".toList

/-- A truth value. -/
def booleanChars (value : Bool) : List Char :=
  if value then "true".toList else "false".toList

mutual

/-- The characters of a value, without white space. -/
def compactChars : Json → List Char
  | null => "null".toList
  | boolean value => booleanChars value
  | integer value => integerChars value
  | real value => realChars value
  | string text => stringChars text
  | array items => '[' :: compactItems items ++ [']']
  | object members => '\x7b' :: compactMembers members ++ ['\x7d']

/-- The items of a list with commas between them. -/
def compactItems : List Json → List Char
  | [] => []
  | [item] => compactChars item
  | item :: next :: rest => compactChars item ++ ',' :: compactItems (next :: rest)

/-- The members of an object with commas between them. -/
def compactMembers : List (String × Json) → List Char
  | [] => []
  | [(key, value)] => stringChars key ++ ':' :: compactChars value
  | (key, value) :: next :: rest =>
    stringChars key ++ ':' :: (compactChars value ++ ',' :: compactMembers (next :: rest))

end

/-- A value in JSON, without white space. -/
def compact (value : Json) : String := .ofList (compactChars value)

/-- A line break, and the spaces that bring a line to its depth. -/
def lineBreak (depth : Nat) : List Char := '\n' :: List.replicate (2 * depth) ' '

mutual

/-- The characters of a value inside `depth` brackets, with one member or item a line. -/
def prettyChars (depth : Nat) : Json → List Char
  | array [] => ['[', ']']
  | array (item :: rest) =>
    '[' :: (lineBreak (depth + 1) ++ prettyChars (depth + 1) item ++ prettyItems (depth + 1) rest ++
      lineBreak depth ++ [']'])
  | object [] => ['\x7b', '\x7d']
  | object ((key, value) :: rest) =>
    '\x7b' :: (lineBreak (depth + 1) ++ stringChars key ++ ':' :: ' ' ::
      prettyChars (depth + 1) value ++ prettyMembers (depth + 1) rest ++ lineBreak depth ++
      ['\x7d'])
  | null => "null".toList
  | boolean value => booleanChars value
  | integer value => integerChars value
  | real value => realChars value
  | string text => stringChars text

/-- The items after the first one, each after a comma and on a line of its own. -/
def prettyItems (depth : Nat) : List Json → List Char
  | [] => []
  | item :: rest => ',' :: (lineBreak depth ++ prettyChars depth item ++ prettyItems depth rest)

/-- The members after the first one, each after a comma and on a line of its own. -/
def prettyMembers (depth : Nat) : List (String × Json) → List Char
  | [] => []
  | (key, value) :: rest =>
    ',' :: (lineBreak depth ++ stringChars key ++ ':' :: ' ' :: prettyChars depth value ++
      prettyMembers depth rest)

end

/-- A value in JSON with two spaces for each level of brackets. -/
def pretty (value : Json) : String := .ofList (prettyChars 0 value)

end ToolDiscovery.Json
