import ToolDiscovery.Pattern.CharClass

/-!
# Classes as ranges

A class of characters is made of ranges of code points. They are found by the thresholds of the
class: the code points at which membership changes, in ascending order, where the code points before
the first threshold are outside. An operation on sets then only has to look at the thresholds of its
operands.
-/

namespace ToolDiscovery.Pattern

namespace Threshold

/-- Puts a threshold before others if something changes there. -/
def place (threshold : Nat) (before after : Bool) (rest : List Nat) : List Nat :=
  if before = after then rest else threshold :: rest

/-- The thresholds of the set that an operation makes of two sets. `inA` and `inB` say whether the
code points before the thresholds are in the sets. -/
def combine (operation : Bool → Bool → Bool) (inA inB : Bool) : List Nat → List Nat → List Nat
  | [], [] => []
  | a :: as, [] =>
    place a (operation inA inB) (operation (!inA) inB) (combine operation (!inA) inB as [])
  | [], b :: bs =>
    place b (operation inA inB) (operation inA (!inB)) (combine operation inA (!inB) [] bs)
  | a :: as, b :: bs =>
    if a < b then
      place a (operation inA inB) (operation (!inA) inB) (combine operation (!inA) inB as (b :: bs))
    else if b < a then
      place b (operation inA inB) (operation inA (!inB)) (combine operation inA (!inB) (a :: as) bs)
    else
      place a (operation inA inB) (operation (!inA) (!inB)) (combine operation (!inA) (!inB) as bs)
termination_by as bs => as.length + bs.length

/-- The thresholds of either of two sets. -/
def union : List Nat → List Nat → List Nat := combine (· || ·) false false

/-- The thresholds of all that is not in a set. -/
def complement : List Nat → List Nat
  | 0 :: rest => rest
  | thresholds => 0 :: thresholds

/-- Puts a range before the thresholds of later ones. A range that the next one touches is joined
with it. -/
def precede (range : Nat × Nat) (later : List Nat) : List Nat :=
  if later.head? = some (range.2 + 1) then range.1 :: later.tail
  else range.1 :: (range.2 + 1) :: later

/-- The thresholds of ranges in ascending order that do not overlap. -/
def ofRanges (ranges : List (Nat × Nat)) : List Nat := ranges.foldr precede []

/-- The thresholds of code points in any order. -/
def ofCodes (codes : List Nat) : List Nat :=
  ofRanges ((codes.mergeSort (· ≤ ·)).eraseReps.map fun n => (n, n))

/-- The ranges between thresholds. The last one ends with the last code point. -/
def toRanges : List Nat → List (Nat × Nat)
  | [] => []
  | [first] => [(first, 0x10FFFF)]
  | first :: next :: rest => (first, next - 1) :: toRanges rest

end Threshold

open Threshold in
/-- The thresholds of a class. -/
def CharClass.thresholds : CharClass → List Nat
  | none => []
  | range first last => if first ≤ last then [first, last + 1] else []
  | property table => ofRanges table.ranges.toList
  | union a b => combine (· || ·) false false a.thresholds b.thresholds
  | intersection a b => combine (· && ·) false false a.thresholds b.thresholds
  | difference a b => combine (· && !·) false false a.thresholds b.thresholds
  | symmetricDifference a b => combine (· != ·) false false a.thresholds b.thresholds
  | complement a => Threshold.complement a.thresholds
  | folded wide a =>
    let families := if wide then Text.caseFamilies else Text.latinFamilies
    let mates := (families.filter (·.any a.contains)).flatten
    Threshold.union a.thresholds (ofCodes (mates.map Char.toNat))

/-- The ranges of the characters of a class, in ascending order. Surrogates are no characters. -/
def CharClass.codeRanges (a : CharClass) : List (Nat × Nat) :=
  Threshold.toRanges (Threshold.combine (· && !·) false false a.thresholds [0xD800, 0xE000])

end ToolDiscovery.Pattern
