import ToolDiscovery.Pattern.CharClass
import ToolDiscovery.Text.Category
import ToolDiscovery.Text.Property

/-!
# Pattern expressions

An `Expr` is what a pattern means: characters, places in the text, sequences, alternatives and
repetitions. Positions in a text are counted from zero before the first character; sets of positions
are numbers whose bits say which positions they hold. `Expr.advance` moves all positions of a set
through an expression at once, and a pattern occurs in a text if some position can be moved.
-/

namespace ToolDiscovery.Pattern

/-- A condition on a place in a text, which looks at the characters on its two sides. -/
inductive Look where
  | textStart
  | textEnd
  /-- The start of a line. Lines end in a line feed or, if `crlf`, also in a carriage return. -/
  | lineStart (crlf : Bool)
  /-- The end of a line. -/
  | lineEnd (crlf : Bool)
  /-- A word begins or ends. With `wide`, words are made of the letters of all scripts. -/
  | wordBoundary (wide : Bool)
  | noWordBoundary (wide : Bool)
  | wordStart (wide : Bool)
  | wordEnd (wide : Bool)
  | wordStartHalf (wide : Bool)
  | wordEndHalf (wide : Bool)
deriving DecidableEq, Repr

/-- How to look around from a place. -/
structure LookAround where
  /-- Whether to look at what comes before the place, and not at what comes after it. -/
  behind : Bool
  /-- Whether the place is wanted if there is nothing of the kind. -/
  negated : Bool
deriving DecidableEq, Repr

/-- A pattern expression. -/
inductive Expr where
  /-- The empty text. -/
  | empty
  /-- One character of a set. -/
  | chars (set : CharSet)
  /-- The empty text at certain places. -/
  | look (condition : Look)
  /-- The empty text at places around which there is a text that an expression describes. -/
  | around (sight : LookAround) (a : Expr)
  /-- A part in round brackets. What matches it may be remembered. -/
  | group (remembered : Bool) (a : Expr)
  /-- One after the other. -/
  | sequence (a b : Expr)
  /-- Either of two. -/
  | either (a b : Expr)
  /-- At least `least` times, and at most `most?` times if that is given. -/
  | repeated (a : Expr) (least : Nat) (most? : Option Nat)

/-! ## Words and digits -/

/-- Decimal digits. -/
def digitClass (wide : Bool) : CharClass :=
  if wide then .property Category.decimalNumber.table else .range 0x30 0x39

/-- White space. -/
def spaceClass (wide : Bool) : CharClass :=
  if wide then .property Property.whiteSpace.table else .ranges [(0x09, 0x0D), (0x20, 0x20)]

/-- The basic Latin letters, the digits and the low line. -/
def narrowWordClass : CharClass :=
  .ranges [(0x30, 0x39), (0x41, 0x5A), (0x5F, 0x5F), (0x61, 0x7A)]

/-- The characters of words. -/
def wordClass (wide : Bool) : CharClass :=
  if wide then
    let categories := Category.marks ++ [Category.decimalNumber, Category.connectorPunctuation]
    .properties ([Property.alphabetic.table, Property.joinControl.table] ++
      categories.map Category.table)
  else narrowWordClass

/-- The characters of words in all scripts. -/
def wideWords : CharSet := { members := wordClass true }

/-- Whether a character belongs to words. -/
def isWord (wide : Bool) (c : Char) : Bool :=
  if wide then wideWords.contains c else narrowWordClass.contains c

/-! ## Places -/

/-- Whether a condition holds between two characters; none stands for an end of the text. -/
def Look.holds (condition : Look) (before after : Option Char) : Bool :=
  match condition with
  | .textStart => before.isNone
  | .textEnd => after.isNone
  | .lineStart crlf =>
    before.isNone || before == some '\n' || (crlf && before == some '\r' && after != some '\n')
  | .lineEnd crlf =>
    after.isNone || (after == some '\n' && !(crlf && before == some '\r')) ||
      (crlf && after == some '\r')
  | .wordBoundary wide => before.any (isWord wide) != after.any (isWord wide)
  | .noWordBoundary wide => before.any (isWord wide) == after.any (isWord wide)
  | .wordStart wide => !before.any (isWord wide) && after.any (isWord wide)
  | .wordEnd wide => before.any (isWord wide) && !after.any (isWord wide)
  | .wordStartHalf wide => !before.any (isWord wide)
  | .wordEndHalf wide => !after.any (isWord wide)

/-- The positions of a text at which a condition holds. -/
def Look.positions (condition : Look) : (before : Option Char) → List Char → Nat
  | before, [] => (condition.holds before none).toNat
  | before, c :: rest =>
    2 * condition.positions (some c) rest + (condition.holds before (some c)).toNat

/-- The positions of a text that are followed by a character of a set. -/
def CharSet.positions (set : CharSet) : List Char → Nat
  | [] => 0
  | c :: rest => 2 * set.positions rest + (set.contains c).toNat

/-! ## Matching -/

/-- Moves positions `count` times. A set that stays the same stays so for ever. -/
def moveTimes (move : Nat → Nat) : (count : Nat) → Nat → Nat
  | 0, positions => positions
  | count + 1, positions =>
    let moved := move positions
    if moved = positions then positions else moveTimes move count moved

/-- The positions that are reached by moving at most `count` times. -/
def moveUpTo (move : Nat → Nat) : (count : Nat) → Nat → Nat
  | 0, positions => positions
  | count + 1, positions =>
    let reached := positions ||| move positions
    if reached = positions then positions else moveUpTo move count reached

/-- The set of all positions of a text. -/
def allPositions (text : List Char) : Nat := (1 <<< (text.length + 1)) - 1

/-- The positions up to the given count at which something can be moved. -/
def movablePositions (move : Nat → Nat) : (count : Nat) → Nat
  | 0 => 0
  | count + 1 =>
    movablePositions move count ||| (if move (1 <<< count) = 0 then 0 else 1 <<< count)

/-- The positions around which a text is moved over as a look around wants it. -/
def LookAround.positions (sight : LookAround) (move : Nat → Nat) (text : List Char) : Nat :=
  let found :=
    if sight.behind then move (allPositions text)
    else movablePositions move (text.length + 1)
  if sight.negated then allPositions text ^^^ found else found

/-- The positions that are reached from those of a set by a part of the text that the expression
describes. In a repetition without end, no more repetitions are needed than the text has
positions. -/
def Expr.advance (text : List Char) : Expr → Nat → Nat
  | empty, positions => positions
  | chars set, positions => (positions &&& set.positions text) <<< 1
  | look condition, positions => positions &&& condition.positions none text
  | around sight a, positions => positions &&& sight.positions (a.advance text) text
  | group _ a, positions => a.advance text positions
  | sequence a b, positions => b.advance text (a.advance text positions)
  | either a b, positions => a.advance text positions ||| b.advance text positions
  | repeated a least most?, positions =>
    moveUpTo (a.advance text) (most?.getD (least + text.length + 1) - least)
      (moveTimes (a.advance text) least positions)

/-- Whether a text has a part that the expression describes. -/
def Expr.occursIn (e : Expr) (text : List Char) : Bool :=
  e.advance text (allPositions text) != 0

end ToolDiscovery.Pattern
