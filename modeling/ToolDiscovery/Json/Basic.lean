import ToolDiscovery.Decimal.Style

/-!
# JSON values

A `Json` value is what a text in the JSON format denotes. Whole numbers between `-2 ^ 63` and
`2 ^ 64 - 1` are kept exactly, all other numbers as floating-point numbers. An object that has been
read has its members in ascending order of their keys, each key once: `insertMember` keeps that
order, so equal objects have equal lists of members whatever order they were written in.
-/

namespace ToolDiscovery

/-- A JSON value. -/
inductive Json where
  /-- The absent value. -/
  | null
  /-- A truth value. -/
  | boolean (value : Bool)
  /-- A whole number that is kept exactly. -/
  | integer (value : Int)
  /-- Any other number. -/
  | real (value : Float)
  /-- A text. -/
  | string (text : String)
  /-- A list of values. -/
  | array (items : List Json)
  /-- Values by key. -/
  | object (members : List (String × Json))
deriving Inhabited

namespace Json

/-- The members of an object. -/
abbrev Members := List (String × Json)

/-- Adds a member in its place. A member with the same key gives way to it. -/
def insertMember (key : String) (value : Json) : Members → Members
  | [] => [(key, value)]
  | (k, v) :: rest =>
    if key < k then (key, value) :: (k, v) :: rest
    else if key = k then (key, value) :: rest
    else (k, v) :: insertMember key value rest

/-- The object with the given members, of which the last one of each key counts. -/
def ofMembers (members : Members) : Json :=
  object (members.foldl (fun sorted (key, value) => insertMember key value sorted) [])

/-- The member of an object under a key; other values have no members. -/
def member? (key : String) : Json → Option Json
  | object members => members.lookup key
  | _ => none

/-- The greatest whole number that is kept exactly. -/
def maxInteger : Nat := 0xffffffffffffffff

/-- The least whole number that is kept exactly. -/
def minInteger : Int := -0x8000000000000000

/-- Numbers in JSON texts are written positionally from `0.00001` up to but not including `1e+16`,
and never as whole numbers. -/
def numberStyle : Decimal.Style where
  positional e := -5 ≤ e && e < 16
  wholePoint := true
  tie := .even

end Json

end ToolDiscovery
