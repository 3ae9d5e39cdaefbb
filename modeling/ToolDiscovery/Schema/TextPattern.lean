import ToolDiscovery.Pattern.Compiled

/-!
# Patterns in schemas

Patterns in schemas are written for web scripts. `TextPattern.spellOut?` rewrites what has another
meaning there: control characters by their letters, and the classes of digits, words and spaces.
Patterns that look around are left as they are.
-/

namespace ToolDiscovery.Schema

/-- A pattern in a schema. -/
structure TextPattern where
  /-- Its text, in which classes have been spelled out. -/
  text : String
  /-- What it describes. -/
  expr : Pattern.Expr

namespace TextPattern

/-- The class that a letter after a backslash stands for. -/
def spelledClass (letter : Char) : String :=
  match letter with
  | 'd' => "[0-9]"
  | 'D' => "[^0-9]"
  | 'w' => "[A-Za-z0-9_]"
  | 'W' => "[^A-Za-z0-9_]"
  | 's' => "[ \t\n\r\u000b\x0c\u00a0\ufeff\u2003\u2029]"
  | _ => "[^ \t\n\r\u000b\x0c\u00a0\ufeff\u2003\u2029]"

/-- Spells the classes out at the given places. A place is given by the number of characters that
are left after the letter. -/
def spellClasses (places : List Nat) : List Char → List Char
  | [] => []
  | [c] => [c]
  | c :: letter :: rest =>
    if c = '\\' && places.contains rest.length then
      (spelledClass letter).toList ++ spellClasses places rest
    else c :: spellClasses places (letter :: rest)

/-- The control character of a letter. -/
def controlOf (letter : Char) : Char := Char.ofNat (letter.toNat % 32)

/-- Spells out what has another meaning in web scripts; nothing if that cannot be done. Each round
replaces one control character. -/
def spellOut? : (rounds : Nat) → List Char → Option (List Char)
  | 0, _ => none
  | rounds + 1, text =>
    match Pattern.Expr.parseWith { ignoreCase := false } (.ofList text) with
    | .ok (_, state) =>
      if state.hasBell then none else some (spellClasses state.letterClasses text)
    | .error .lookAround => some text
    | .error (.unknownEscape 'c' (letter :: rest)) =>
      if letter.isAlpha then
        let before := text.take (text.length - rest.length - 3)
        spellOut? rounds (before ++ controlOf letter :: rest)
      else none
    | .error _ => none

/-- Whether a text can be rewritten. -/
def isReadable (text : String) : Bool := (spellOut? (text.length + 1) text.toList).isSome

/-- Reads a pattern, in which case matters. A pattern for which a matcher takes too much space is
none. -/
def parse? (text : String) : Option TextPattern := do
  let spelled := String.ofList (← spellOut? (text.length + 1) text.toList)
  let flags : Pattern.Flags := { ignoreCase := false, dialect := .around }
  let (expr, _) ← (Pattern.Expr.parseWith flags spelled).toOption
  if expr.layout.fits then some ⟨spelled, expr⟩ else none

end TextPattern

end ToolDiscovery.Schema
