/-!
# Tables of code point ranges

A `RangeTable` is a set of code points, kept as closed ranges in ascending order. `ofHex` reads the
compact written form in which the tables of this library are stated, and `contains` looks a code
point up by halving the table.
-/

namespace ToolDiscovery

/-- A set of code points as closed ranges, which stand in ascending order and do not overlap. -/
structure RangeTable where
  /-- The first and the last code point of each range. -/
  ranges : Array (Nat × Nat)
deriving Inhabited, Repr, DecidableEq

namespace RangeTable

/-- The value of a hexadecimal digit, in either case. -/
def hexDigit? (c : Char) : Option Nat :=
  if '0' ≤ c ∧ c ≤ '9' then some (c.toNat - 48)
  else if 'a' ≤ c ∧ c ≤ 'f' then some (c.toNat - 87)
  else if 'A' ≤ c ∧ c ≤ 'F' then some (c.toNat - 55)
  else none

/-- The part of a written table that has been read, and the range that is being read. -/
structure Scan where
  /-- The ranges that are complete. -/
  done : Array (Nat × Nat) := #[]
  /-- The first code point of the current range, once a dash was met. -/
  low? : Option Nat := none
  /-- The number that is being read, if a digit of it was met. -/
  number? : Option Nat := none

/-- Completes the current range, if there is one. -/
def Scan.flush (s : Scan) : Scan :=
  match s.number? with
  | none => { done := s.done }
  | some n => { done := s.done.push (s.low?.getD n, n) }

/-- Takes in one character of a written table. -/
def Scan.step (s : Scan) (c : Char) : Scan :=
  match hexDigit? c with
  | some d => { s with number? := some (s.number?.getD 0 * 16 + d) }
  | none => if c = '-' then { s with low? := s.number?, number? := none } else s.flush

/-- Reads a table that is written as blank-separated ranges `low-high` or single code points, all
in hexadecimal. -/
def ofHex (text : String) : RangeTable :=
  ⟨(text.toList.foldl Scan.step {}).flush.done⟩

/-- Looks for `n` among the ranges with index from `low` up to but not including `high`. -/
def search (ranges : Array (Nat × Nat)) (n low high : Nat) : Bool :=
  if low < high then
    let middle := (low + high) / 2
    match ranges[middle]? with
    | none => false
    | some (first, last) =>
      if n < first then search ranges n low middle
      else if last < n then search ranges n (middle + 1) high
      else true
  else false
termination_by high - low

/-- Whether a code point lies in one of the ranges. -/
def contains (table : RangeTable) (n : Nat) : Bool :=
  search table.ranges n 0 table.ranges.size

end RangeTable

end ToolDiscovery
