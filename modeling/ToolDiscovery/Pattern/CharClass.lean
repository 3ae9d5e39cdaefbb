import ToolDiscovery.Text.CaseFold
import ToolDiscovery.Text.RangeTable

/-!
# Character classes

A `CharClass` describes a set of characters by ranges, properties and the operations on sets, and
`CharClass.contains` says what is in it. A `CharSet` is a class together with its answers for the
first 128 characters, which are looked up most often.
-/

namespace ToolDiscovery.Pattern

/-- A set of characters. -/
inductive CharClass where
  /-- No character. -/
  | none
  /-- The characters from one code point to another one. -/
  | range (first last : Nat)
  /-- The characters of a table. -/
  | property (table : RangeTable)
  /-- The characters of either class. -/
  | union (a b : CharClass)
  /-- The characters of both classes. -/
  | intersection (a b : CharClass)
  /-- The characters of the first class that are not in the second one. -/
  | difference (a b : CharClass)
  /-- The characters of exactly one of the classes. -/
  | symmetricDifference (a b : CharClass)
  /-- All other characters. -/
  | complement (a : CharClass)
  /-- The characters that differ from one of the class in case only. Without `wide`, only the basic
  Latin letters have two cases. -/
  | folded (wide : Bool) (a : CharClass)
deriving Inhabited

namespace CharClass

/-- Whether a character belongs to a class. -/
def contains : CharClass → Char → Bool
  | none, _ => false
  | range first last, c => first ≤ c.toNat && c.toNat ≤ last
  | property table, c => table.contains c.toNat
  | union a b, c => a.contains c || b.contains c
  | intersection a b, c => a.contains c && b.contains c
  | difference a b, c => a.contains c && !b.contains c
  | symmetricDifference a b, c => a.contains c != b.contains c
  | complement a, c => !a.contains c
  | folded wide a, c => (if wide then Text.caseMates c else Text.latinMates c).any a.contains

/-- The class of one character. -/
def single (c : Char) : CharClass := range c.toNat c.toNat

/-- The class of several ranges. -/
def ranges (list : List (Nat × Nat)) : CharClass :=
  list.foldr (fun (first, last) rest => union (range first last) rest) none

/-- The class of several tables. -/
def properties (tables : List RangeTable) : CharClass :=
  tables.foldr (fun table rest => union (property table) rest) none

/-- A class or its complement. -/
def negatedIf (negated : Bool) (a : CharClass) : CharClass := if negated then complement a else a

/-- Whether a class holds all mates of its characters by the way it is built. -/
def isFolded : CharClass → Bool
  | none | folded _ _ => true
  | range _ _ | property _ => false
  | complement a => a.isFolded
  | union a b | intersection a b | difference a b | symmetricDifference a b =>
    a.isFolded && b.isFolded

/-- A class together with all mates of its characters. Parts that hold theirs are left alone. -/
def fold (wide : Bool) : CharClass → CharClass
  | union a b => union (a.fold wide) (b.fold wide)
  | a => if a.isFolded then a else folded wide a

/-- Whether the characters of a class are all among the first 128, as far as the first 256 tell. -/
def isNarrow (a : CharClass) : Bool :=
  (List.range 128).all fun n => !a.contains (Char.ofNat (128 + n))

/-- The answers for the first 128 characters as the bits of a number. -/
def firstBits (a : CharClass) : Nat :=
  (List.range 128).foldr (fun n bits => 2 * bits + (a.contains (Char.ofNat n)).toNat) 0

end CharClass

/-- A class with its answers for the first 128 characters. -/
structure CharSet where
  /-- The class. -/
  members : CharClass
  /-- The answers for the first 128 characters. -/
  firstBits : Nat := members.firstBits
  /-- The answers are those of the class. -/
  firstBits_eq : firstBits = members.firstBits := by rfl

/-- Whether a character belongs to a set. -/
def CharSet.contains (set : CharSet) (c : Char) : Bool :=
  if c.toNat < 128 then set.firstBits.testBit c.toNat else set.members.contains c

end ToolDiscovery.Pattern
