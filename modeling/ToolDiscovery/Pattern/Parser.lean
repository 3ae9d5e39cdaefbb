import ToolDiscovery.Pattern.Expr
import ToolDiscovery.Pattern.Named
import ToolDiscovery.Text.Blank
import ToolDiscovery.Text.Token

/-!
# Reading patterns

`Expr.parse?` reads the written form of a pattern. Besides the usual operators there are flags,
which hold from where they stand to the end of the group, classes in brackets with set operations,
and classes by name. There is no referring back. In one of the dialects a pattern can look around.
What is no pattern has a fault.
-/

namespace ToolDiscovery.Pattern

/-- The dialects of patterns. -/
inductive Dialect where
  /-- There is no looking around, and everything can be repeated. -/
  | plain
  /-- A pattern can look ahead and behind. What only describes places cannot be repeated, and some
  flags and names are missing. -/
  | around
deriving Inhabited, DecidableEq

/-- The flags of a pattern. -/
structure Flags where
  /-- `i`: upper and lower case are the same. -/
  ignoreCase : Bool := true
  /-- `m`: the anchors hold at lines. -/
  multiLine : Bool := false
  /-- `s`: the dot includes the line feed. -/
  dotAll : Bool := false
  /-- `U`: repetitions prefer to be short, which does not change what matches. -/
  lazy : Bool := false
  /-- `u`: classes and cases include all scripts. -/
  wide : Bool := true
  /-- `R`: lines may end in a carriage return. -/
  crlf : Bool := false
  /-- `x`: blanks and comments do not count. -/
  spaced : Bool := false
  /-- Without a letter: the dialect. -/
  dialect : Dialect := .plain
deriving Inhabited

/-- Sets the flag of a letter. Patterns that look around always include all scripts, and their lines
end in line feeds. -/
def Flags.set? (flags : Flags) (letter : Char) (value : Bool) : Option Flags :=
  if flags.dialect = .around ∧ (letter = 'R' ∨ letter = 'u' ∧ !value) then none
  else
  match letter with
  | 'i' => some { flags with ignoreCase := value }
  | 'm' => some { flags with multiLine := value }
  | 's' => some { flags with dotAll := value }
  | 'U' => some { flags with lazy := value }
  | 'u' => some { flags with wide := value }
  | 'R' => some { flags with crlf := value }
  | 'x' => some { flags with spaced := value }
  | _ => none

/-- What is wrong with a pattern. -/
inductive ParseFault where
  /-- A letter after a backslash has no meaning. The characters that are left after it are given. -/
  | unknownEscape (letter : Char) (rest : List Char)
  /-- The pattern looks around, which the dialect does not allow. -/
  | lookAround
  /-- Anything else. -/
  | malformed

/-- What is left of a pattern, and what holds there. -/
structure ParseState where
  /-- The characters that are left. -/
  rest : List Char
  /-- The flags that hold. -/
  flags : Flags := {}
  /-- The names of the groups so far. -/
  names : List (List Char) := []
  /-- How many characters were left after the letters of classes such as `\d`, the last one
  first. -/
  letterClasses : List Nat := []
  /-- Whether the bell was named by its letter outside of brackets. -/
  hasBell : Bool := false

/-- Reads a part of a pattern. -/
abbrev Parse (α : Type) := StateT ParseState (Except ParseFault) α

namespace Parse

/-- Fails. -/
def fail {α : Type} : Parse α := throw .malformed

/-- What is left. -/
def rest : Parse (List Char) := do return (← get).rest

/-- The flags that hold. -/
def flags : Parse Flags := do return (← get).flags

/-- Changes the flags. -/
def setFlags (flags : Flags) : Parse Unit := modify ({ · with flags })

/-- Replaces what is left. -/
def setRest (rest : List Char) : Parse Unit := modify ({ · with rest })

/-- The next character. -/
def peek? : Parse (Option Char) := do return (← rest).head?

/-- Takes the next character. -/
def skip : Parse Unit := do setRest (← rest).tail

/-- The next character, which there must be. -/
def peek : Parse Char := do
  match ← peek? with
  | some c => pure c
  | none => fail

/-- What follows blanks and comments. A comment ends with its line. -/
def dropSpace (inComment : Bool) : List Char → List Char
  | [] => []
  | c :: rest =>
    if inComment then dropSpace (c != '\n') rest
    else if Text.isBlank c then dropSpace false rest
    else if c = '#' then dropSpace true rest
    else c :: rest

/-- Passes over blanks and comments if they do not count. -/
def skipSpace : Parse Unit := do
  if (← flags).spaced then setRest (dropSpace false (← rest))

/-- Takes the next character, and blanks and comments after it. -/
def skipAndSpace : Parse Unit := do
  skip
  skipSpace

/-- Takes some characters if they come next. -/
def skipIf (expected : String) : Parse Bool := do
  let expected := expected.toList
  let left ← rest
  if expected.isPrefixOf left then
    setRest (left.drop expected.length)
    pure true
  else pure false

/-! ## Single characters -/

/-- The class of one character under the flags. Without `u`, only basic Latin letters have two
cases. -/
def literalClass (c : Char) : Parse CharClass := do
  let flags ← flags
  pure (if flags.ignoreCase then .folded flags.wide (.single c) else .single c)

/-- The expression of one character of a class. -/
def charsOf (members : CharClass) : Expr := .chars { members }

/-- Negates a class. Without `u`, it must not reach beyond the basic Latin characters then. -/
def negateClass (negated : Bool) (members : CharClass) : Parse CharClass := do
  let members := members.negatedIf negated
  if (← flags).wide || members.isNarrow then pure members else fail

/-- Makes a class insensitive to case if the flags say so, and then negates it. -/
def finishClass (negated : Bool) (members : CharClass) : Parse CharClass := do
  let flags ← flags
  negateClass negated (if flags.ignoreCase then members.fold flags.wide else members)

/-- What an escape or a plain character stands for. -/
inductive Primitive where
  /-- A character. -/
  | literal (c : Char)
  /-- A byte by number, which is no character. -/
  | byte
  /-- A class. -/
  | members (set : CharClass)
  /-- A condition on the place. -/
  | look (condition : Look)

/-- Whether a character is a hexadecimal digit. -/
def isHexDigit (c : Char) : Bool := (RangeTable.hexDigit? c).isSome

/-- The character of a number in hexadecimal. -/
def charOfHex? (digits : List Char) : Option Char :=
  let n := digits.foldl (fun n c => n * 16 + (RangeTable.hexDigit? c).getD 0) 0
  if n.isValidChar then some (Char.ofNat n) else none

/-- The character of a number in hexadecimal. -/
def charOfHex (digits : List Char) : Parse Char :=
  match charOfHex? digits with
  | some c => pure c
  | none => fail

/-- Reads hexadecimal digits up to a closing brace, and takes the brace. -/
def hexInBraces : (fuel : Nat) → List Char → Parse Char
  | 0, _ => fail
  | fuel + 1, digits => do
    let c ← peek
    if c = '\x7d' then
      skipAndSpace
      if digits.isEmpty then fail else charOfHex digits.reverse
    else if isHexDigit c then
      skipAndSpace
      hexInBraces fuel (c :: digits)
    else fail

/-- Reads a set count of hexadecimal digits. -/
def hexDigits : (count : Nat) → Parse (List Char)
  | 0 => pure []
  | count + 1 => do
    let c ← peek
    if isHexDigit c then
      skipAndSpace
      return c :: (← hexDigits count)
    else fail

/-- Reads a character by number, from the letter on that says how many digits there are. -/
def hexLiteral (letter : Char) : Parse Primitive := do
  skipAndSpace
  if (← peek) = '\x7b' then
    skipAndSpace
    return .literal (← hexInBraces (← rest).length [])
  else
    let c ← charOfHex (← hexDigits (if letter = 'x' then 2 else if letter = 'u' then 4 else 8))
    if letter = 'x' ∧ !(← flags).wide ∧ 128 ≤ c.toNat then pure .byte else pure (.literal c)

/-- Splits a text at the first place where a mark stands. -/
def splitAtMark? (mark : List Char) : (before : List Char) → List Char → Option (String × String)
  | before, [] => if mark.isEmpty then some (.ofList before.reverse, "") else none
  | before, c :: rest =>
    if mark.isPrefixOf (c :: rest) then
      some (.ofList before.reverse, .ofList ((c :: rest).drop mark.length))
    else splitAtMark? mark (c :: before) rest

/-- The class that is named between braces, and whether it is the complement that is meant: a value
behind `!=` names the complement of what it names behind `=`. -/
def classInBraces? (name : List Char) : Option (CharClass × Bool) :=
  match splitAtMark? ['!', '='] [] name with
  | some (property, value) => (propertyValueClass? property value).map (·, true)
  | none =>
    match (splitAtMark? [':'] [] name).or (splitAtMark? ['='] [] name) with
    | some (property, value) => (propertyValueClass? property value).map (·, false)
    | none => (propertyClass? (.ofList name)).map (·, false)

/-- Reads up to a closing brace, and takes the brace. -/
def untilBrace : (fuel : Nat) → List Char → Parse (List Char)
  | 0, _ => fail
  | fuel + 1, read => do
    let c ← peek
    if c = '\x7d' then
      skip
      pure read.reverse
    else
      skipAndSpace
      untilBrace fuel (c :: read)

/-- Reads a class by its property, from the letter on that says whether it is negated. If what
stands between the braces negates it too, neither does. -/
def propertyClass (letter : Char) : Parse Primitive := do
  skipAndSpace
  let c ← peek
  let name ←
    if c = '\x7b' then
      skipAndSpace
      untilBrace (← rest).length []
    else if c = '\\' then fail
    else
      skipAndSpace
      pure [c]
  let found? :=
    if c = '\x7b' then classInBraces? name else (propertyClass? (.ofList name)).map (·, false)
  match found? with
  | some (members, opposite) =>
    if (← flags).wide then return .members (← finishClass ((letter == 'P') != opposite) members)
    else fail
  | none => fail

/-- The class of a letter after a backslash. -/
def letterClass (letter : Char) : Parse Primitive := do
  skip
  modify fun state => { state with letterClasses := state.rest.length :: state.letterClasses }
  let wide := (← flags).wide
  let members :=
    match letter.toLower with
    | 'd' => digitClass wide
    | 's' => spaceClass wide
    | _ => wordClass wide
  return .members (← negateClass letter.isUpper members)

/-- The characters that have a meaning of their own in patterns. -/
def operators : List Char := "\\.+*?()|[]\x7b\x7d^$#&-~".toList

/-- Whether a backslash may stand before a character that it does not change. -/
def isEscapable (c : Char) : Bool :=
  operators.contains c || (c.toNat < 128 && !c.isAlphanum && c != '<' && c != '>')

/-- Whether a character may belong to the name of a place. -/
def isPlaceNameChar (c : Char) : Bool := c.isAlpha || c == '-'

/-- Reads the name of a place, up to what is no part of a name. -/
def placeName : (fuel : Nat) → List Char → Parse String
  | 0, read => pure (.ofList read.reverse)
  | fuel + 1, read => do
    match ← peek? with
    | some c =>
      if isPlaceNameChar c then
        skipAndSpace
        placeName fuel (c :: read)
      else pure (.ofList read.reverse)
    | none => pure (.ofList read.reverse)

/-- Reads the place that a word boundary names in braces. If the braces hold no name, they are a
repetition and stay where they are. -/
def wordPlace : Parse Look := do
  let wide := (← flags).wide
  let before ← rest
  if (← peek?) ≠ some '\x7b' then pure (.wordBoundary wide)
  else
    skipAndSpace
    if isPlaceNameChar (← peek) then
      let name ← placeName (← rest).length []
      if (← peek) ≠ '\x7d' then fail
      else
        skip
        match name with
        | "start" => pure (.wordStart wide)
        | "end" => pure (.wordEnd wide)
        | "start-half" => pure (.wordStartHalf wide)
        | "end-half" => pure (.wordEndHalf wide)
        | _ => fail
    else
      setRest before
      pure (.wordBoundary wide)

/-- Reads an escape, from the backslash on. -/
def escape : Parse Primitive := do
  skip
  let c ← peek
  let wide := (← flags).wide
  if c.isDigit then fail
  else if c = 'x' ∨ c = 'u' ∨ c = 'U' then hexLiteral c
  else if c = 'p' ∨ c = 'P' then propertyClass c
  else if "dswDSW".toList.contains c then letterClass c
  else
    skip
    if isEscapable c then pure (.literal c)
    else
      match c with
      | 'a' => pure (.literal '\x07')
      | 'f' => pure (.literal '\x0c')
      | 't' => pure (.literal '\t')
      | 'n' => pure (.literal '\n')
      | 'r' => pure (.literal '\r')
      | 'v' => pure (.literal '\x0b')
      | 'A' => pure (.look .textStart)
      | 'z' => pure (.look .textEnd)
      | 'b' => return .look (← wordPlace)
      | 'B' => pure (.look (.noWordBoundary wide))
      | '<' => pure (.look (.wordStart wide))
      | '>' => pure (.look (.wordEnd wide))
      | _ => throw (.unknownEscape c (← rest))

/-- The class of all characters that the dot stands for. -/
def dotClass (flags : Flags) : CharClass :=
  if flags.dotAll then .complement .none
  else .complement (.ranges (if flags.crlf then [(0x0A, 0x0A), (0x0D, 0x0D)] else [(0x0A, 0x0A)]))

/-- Reads what stands for one character or one place. -/
def primitive : Parse Expr := do
  let flags ← flags
  match ← peek with
  | '\\' =>
    if (← rest).take 2 = ['\\', 'a'] then modify ({ · with hasBell := true })
    match ← escape with
    | .literal c => return charsOf (← literalClass c)
    | .byte => fail
    | .members set => pure (charsOf set)
    | .look condition => pure (.look condition)
  | '.' =>
    skip
    if flags.wide then pure (charsOf (dotClass flags)) else fail
  | '^' =>
    skip
    pure (.look (if flags.multiLine then .lineStart flags.crlf else .textStart))
  | '$' =>
    skip
    pure (.look (if flags.multiLine then .lineEnd flags.crlf else .textEnd))
  | c =>
    skip
    return charsOf (← literalClass c)

/-! ## Classes in brackets -/

/-- Reads a class by its name between colons. If there is none, nothing is taken. -/
def namedClass? : Parse (Option CharClass) := do
  let before ← rest
  match before with
  | '[' :: ':' :: more =>
    let negated := more.head? == some '^'
    let more := if negated then more.tail else more
    let name := more.takeWhile (· != ':')
    match more.dropWhile (· != ':'), bracketClass? (.ofList name) with
    | ':' :: ']' :: after, some members =>
      setRest after
      return some (← finishClass negated members)
    | _, _ => pure none
  | _ => pure none

/-- The operations on classes. -/
inductive SetOperation where
  | intersection
  | difference
  | symmetricDifference

/-- Joins the class before an operator with the one after it. -/
def joinClasses (flags : Flags) (left? : Option (CharClass × SetOperation)) (right : CharClass) :
    CharClass :=
  let fold (a : CharClass) : CharClass := if flags.ignoreCase then a.fold flags.wide else a
  match left? with
  | none => right
  | some (left, .intersection) => .intersection (fold left) (fold right)
  | some (left, .difference) => .difference (fold left) (fold right)
  | some (left, .symmetricDifference) => .symmetricDifference (fold left) (fold right)

/-- The operator that comes next. -/
def setOperation? (left : List Char) : Option SetOperation :=
  match left with
  | '&' :: '&' :: _ => some .intersection
  | '-' :: '-' :: _ => some .difference
  | '~' :: '~' :: _ => some .symmetricDifference
  | _ => none

/-- One end of a range, or what stands in its place. -/
def classItem : Parse Primitive := do
  let c ← peek
  if c = '\\' then escape
  else
    skip
    pure (.literal c)

/-- The code point that ends a range. Without `u`, it must be a basic Latin character. -/
def rangeEnd : Primitive → Parse Nat
  | .literal c => do if (← flags).wide || c.toNat < 128 then pure c.toNat else fail
  | _ => fail

/-- The class of an item that is no end of a range. -/
def itemClass : Primitive → Parse CharClass
  | .members set => pure set
  | item => do
    let n ← rangeEnd item
    pure (.range n n)

/-- The character after the next one, without blanks and the mark of a comment if they do not
count. -/
def peekSecond? : Parse (Option Char) := do
  let after := (← rest).tail
  if (← flags).spaced then
    match after.dropWhile Text.isBlank with
    | '#' :: more => return (more.dropWhile Text.isBlank).head?
    | more => return more.head?
  else return after.head?

/-- Reads a character, a class or a range inside brackets. -/
def classRange : Parse CharClass := do
  let first ← classItem
  skipSpace
  let c ← peek
  let second? ← peekSecond?
  if c ≠ '-' ∨ second? = some ']' ∨ second? = some '-' then itemClass first
  else
    skipAndSpace
    let last ← classItem
    let low ← rangeEnd first
    let high ← rangeEnd last
    if low ≤ high then pure (.range low high) else fail

/-- Reads the dashes at the start of a class, which stand for themselves. -/
def leadingDashes : (fuel : Nat) → CharClass → Parse CharClass
  | 0, read => pure read
  | fuel + 1, read => do
    if (← peek) = '-' then
      skipAndSpace
      leadingDashes fuel (.union read (.single '-'))
    else pure read

/-- Reads what stands in a class before its items: a mark of negation, and dashes or a bracket that
stand for themselves. -/
def classStart : Parse (Bool × CharClass) := do
  skipAndSpace
  let negated := (← peek) == '^'
  if negated then skipAndSpace
  let dashes ← leadingDashes (← rest).length .none
  match dashes, ← peek with
  | .none, ']' =>
    skipAndSpace
    pure (negated, .single ']')
  | _, _ => pure (negated, dashes)

/-- Reads the items of a class, up to and with the bracket at its end. -/
def classItems : (fuel : Nat) → Option (CharClass × SetOperation) → CharClass → Parse CharClass
  | 0, _, _ => fail
  | fuel + 1, left?, read => do
    skipSpace
    let flags ← flags
    match ← peek with
    | '[' =>
      match ← namedClass? with
      | some members => classItems fuel left? (.union read members)
      | none =>
        let (negated, start) ← classStart
        let inner ← finishClass negated (← classItems fuel none start)
        classItems fuel left? (.union read inner)
    | ']' =>
      skip
      pure (joinClasses flags left? read)
    | _ =>
      match setOperation? (← rest) with
      | some operation =>
        setRest ((← rest).drop 2)
        classItems fuel (some (joinClasses flags left? read, operation)) .none
      | none =>
        let item ← classRange
        classItems fuel left? (.union read item)

/-- Reads a class from its bracket on. -/
def bracketClass : Parse Expr := do
  let fuel := 2 * (← rest).length
  let (negated, start) ← classStart
  return charsOf (← finishClass negated (← classItems fuel none start))

/-! ## Repetitions -/

/-- Reads a number, with blanks around it that never count. -/
def decimal? : Parse (Option Nat) := do
  setRest ((← rest).dropWhile Text.isBlank)
  let digits ← digitsFrom (← rest).length []
  trailing (← rest).length
  if digits.isEmpty then pure none
  else
    let n := digits.foldl (fun n c => n * 10 + (c.toNat - '0'.toNat)) 0
    if n ≤ 0xffffffff then pure (some n) else fail
where
  /-- Reads digits. -/
  digitsFrom : (fuel : Nat) → List Char → Parse (List Char)
    | 0, read => pure read.reverse
    | fuel + 1, read => do
      match ← peek? with
      | some c =>
        if c.isDigit then
          skipAndSpace
          digitsFrom fuel (c :: read)
        else pure read.reverse
      | none => pure read.reverse
  /-- Passes over blanks. -/
  trailing : (fuel : Nat) → Parse Unit
    | 0 => pure ()
    | fuel + 1 => do
      if ((← peek?).map Text.isBlank).getD false then
        skipAndSpace
        trailing fuel

/-- Takes the mark that makes a repetition prefer to be short. -/
def lazyMark : Parse Unit := do
  if (← peek?) = some '?' then skip

/-- Reads how often something is repeated, from the operator on. -/
def repetition (e : Expr) : Parse Expr := do
  match ← peek with
  | '?' =>
    skip
    lazyMark
    pure (.repeated e 0 (some 1))
  | '*' =>
    skip
    lazyMark
    pure (.repeated e 0 none)
  | '+' =>
    skip
    lazyMark
    pure (.repeated e 1 none)
  | _ =>
    skipAndSpace
    let least? ← decimal?
    match least?, ← peek with
    | none, _ => fail
    | some least, ',' =>
      skipAndSpace
      if (← peek) = '\x7d' then counted least none
      else
        match ← decimal? with
        | none => fail
        | some most => if least ≤ most then counted least (some most) else fail
    | some least, _ => counted least (some least)
where
  /-- Takes the closing brace. -/
  counted (least : Nat) (most? : Option Nat) : Parse Expr := do
    if (← peek) = '\x7d' then
      skipAndSpace
      lazyMark
      pure (.repeated e least most?)
    else fail

/-! ## Groups -/

/-- Whether a character may stand in the name of a group. -/
def isGroupNameChar (dialect : Dialect) (first : Bool) (c : Char) : Bool :=
  if first then c == '_' || Text.isAlphabetic c
  else
    match dialect with
    | .plain => c == '_' || c == '.' || c == '[' || c == ']' || Text.isAlphanumeric c
    | .around => c == '_' || Text.isAlphanumeric c

/-- Reads the name of a group and the mark at its end. Each name may be given once. -/
def groupName : Parse Unit := do
  let left ← rest
  let dialect := (← flags).dialect
  let name := left.takeWhile (· != '>')
  let valid : Bool := match name with
    | [] => false
    | c :: more => isGroupNameChar dialect true c && more.all (isGroupNameChar dialect false)
  let state ← get
  if valid ∧ name.length < left.length ∧ !state.names.contains name then
    set { state with rest := left.drop (name.length + 1), names := name :: state.names }
  else fail

/-- Reads flags up to a colon or a bracket, which stays where it is. Each flag and the dash may be
given once, and the dash not at the end. -/
def flagLetters : (fuel : Nat) → (seen : List Char) → Flags → Parse (List Char × Flags)
  | 0, _, _ => fail
  | fuel + 1, seen, flags => do
    let c ← peek
    if c = ':' ∨ c = ')' then
      if seen.head? = some '-' then fail else pure (seen, flags)
    else if seen.contains c then fail
    else if c = '-' then
      skip
      flagLetters fuel ('-' :: seen) flags
    else
      match flags.set? c (!seen.contains '-') with
      | some flags =>
        skip
        flagLetters fuel (c :: seen) flags
      | none => fail

/-- What opens with a round bracket. -/
inductive Opening where
  /-- A group, inside of which the flags hold. What matches it may be remembered. -/
  | group (flags : Flags) (remembered : Bool)
  /-- Flags for what follows. -/
  | flags (flags : Flags)
  /-- A look at what is around a place. -/
  | around (sight : LookAround)

/-- Reads the mark of a look around. -/
def lookAround? : Parse (Option LookAround) := do
  if (← skipIf "?=") then pure (some ⟨false, false⟩)
  else if (← skipIf "?!") then pure (some ⟨false, true⟩)
  else if (← skipIf "?<=") then pure (some ⟨true, false⟩)
  else if (← skipIf "?<!") then pure (some ⟨true, true⟩)
  else pure none

/-- Reads what opens with a round bracket, which has been taken. -/
def opening : Parse Opening := do
  skipSpace
  let current ← flags
  if let some sight ← lookAround? then
    if current.dialect = .around then pure (.around sight) else throw .lookAround
  else if (← skipIf "?P<") then
    groupName
    pure (.group current true)
  else if (← skipIf "?<") then
    groupName
    pure (.group current true)
  else if (← skipIf "?") then
    let (seen, changed) ← flagLetters ((← rest).length + 1) [] current
    let c ← peek
    skip
    if c = ')' then
      if seen.isEmpty then fail else pure (.flags changed)
    else pure (.group changed false)
  else pure (.group current true)

/-- Puts an expression after another one, of which the last part may still be repeated. -/
def push (done : Expr) (last? : Option Expr) : Expr :=
  match done, last? with
  | done, none => done
  | .empty, some last => last
  | done, some last => .sequence done last

/-- Whether a part may be repeated in a dialect. Where a pattern can look around, neither a
repetition without brackets around it nor what only describes a place may be. -/
def isRepeatable (dialect : Dialect) : Expr → Bool
  | .empty | .look _ | .around _ _ | .repeated _ _ _ => dialect = .plain
  | .group false a => isRepeatable dialect a || (a matches .repeated ..)
  | _ => true

mutual

/-- Reads the parts of a sequence after those that are done, the last of which may still be
repeated. -/
def parts : (fuel : Nat) → (done : Expr) → (last? : Option Expr) → Parse Expr
  | 0, _, _ => fail
  | fuel + 1, done, last? => do
    skipSpace
    match ← peek? with
    | none => pure (push done last?)
    | some c =>
      if c = ')' ∨ c = '|' then pure (push done last?)
      else if c = '(' then
        skip
        match ← opening with
        | .flags changed =>
          setFlags changed
          parts fuel (push done last?) none
        | .group changed remembered =>
          let outer ← flags
          setFlags changed
          let inner ← alternatives fuel
          if (← peek) ≠ ')' then fail
          else
            skip
            setFlags outer
            parts fuel (push done last?) (some (.group remembered inner))
        | .around sight =>
          let outer ← flags
          let inner ← alternatives fuel
          if (← peek) ≠ ')' then fail
          else
            skip
            setFlags outer
            parts fuel (push done last?) (some (.around sight inner))
      else if c = '[' then
        let found ← bracketClass
        parts fuel (push done last?) (some found)
      else if c = '?' ∨ c = '*' ∨ c = '+' ∨ c = '\x7b' then
        match last? with
        | none => fail
        | some last =>
          if isRepeatable (← flags).dialect last then
            let repeated ← repetition last
            parts fuel done (some repeated)
          else if c = '+' && (last matches .repeated ..) then
            skip
            parts fuel done (some (.group false last))
          else fail
      else
        let found ← primitive
        parts fuel (push done last?) (some found)

/-- Reads sequences with bars between them. -/
def alternatives : (fuel : Nat) → Parse Expr
  | 0 => fail
  | fuel + 1 => do
    let first ← parts fuel .empty none
    if (← peek?) = some '|' then
      skip
      return .either first (← alternatives fuel)
    else pure first

end

end Parse

/-- Reads the written form of a pattern. The given flags hold unless the pattern says otherwise.
What has been noted on the way is given too. -/
def Expr.parseWith (flags : Flags) (text : String) : Except ParseFault (Expr × ParseState) := do
  let characters := text.toList
  let (e, state) ←
    Parse.alternatives (4 * characters.length + 8) { rest := characters, flags }
  if state.rest.isEmpty then pure (e, state) else throw .malformed

/-- Reads the written form of a pattern, in which case does not matter unless flags say so. -/
def Expr.parse? (text : String) : Option Expr := (Expr.parseWith {} text).toOption.map (·.1)

end ToolDiscovery.Pattern
