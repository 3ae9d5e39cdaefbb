import ToolDiscovery.Text.Character

/-!
# Quoted text in messages

A text is shown in messages between double quotes. Quotes, backslashes, line breaks and everything
that leaves no mark of its own on paper is escaped.
-/

namespace ToolDiscovery.Text

/-- The halfwidth sound marks of Katakana, which join the character before them but can stand
alone. -/
def soundMarks : List Char := ['\uFF9E', '\uFF9F']

/-- Whether a character joins the one before it so that it cannot stand alone. -/
def isDependent (c : Char) : Bool := isExtend c && !soundMarks.contains c

/-- The code point of a character in hexadecimal, as an escape. -/
def codePointEscape (c : Char) : List Char :=
  ['\\', 'u', '\x7b'] ++ Nat.toDigits 16 c.toNat ++ ['\x7d']

/-- A character as it stands between the quotes. Marks that join the character before them are
escaped too. -/
def quotedChar (c : Char) : List Char :=
  match c with
  | '\x00' => ['\\', '0']
  | '\t' => ['\\', 't']
  | '\r' => ['\\', 'r']
  | '\n' => ['\\', 'n']
  | '"' => ['\\', '"']
  | '\\' => ['\\', '\\']
  | c =>
    if isDependent c || !isVisible c then codePointEscape c else [c]

/-- A text between double quotes. -/
def quoted (text : String) : String :=
  .ofList ('"' :: text.toList.flatMap quotedChar ++ ['"'])

end ToolDiscovery.Text
