import ToolDiscovery.Json.Decoder

/-!
# Comparing JSON numbers

Whole numbers and floating-point numbers are compared by their exact values, so that it does not
matter how a number is written. Whether one number is a multiple of another one is decided for the
nearest floating-point numbers: for their exact values if the step is a whole number, and otherwise
for their shortest decimals.
-/

namespace ToolDiscovery

/-- The fraction of two whole numbers, of which the lower one is above zero. -/
structure Ratio where
  numerator : Int
  denominator : Nat
deriving DecidableEq, Repr

namespace Ratio

/-- A whole number. -/
def ofInt (n : Int) : Ratio := ⟨n, 1⟩

/-- The number `mantissa · base ^ exponent`. -/
def scaled (mantissa : Int) (base : Nat) (exponent : Int) : Ratio :=
  ⟨mantissa * Nat.pow base exponent.toNat, Nat.pow base (-exponent).toNat⟩

/-- The exact value of a floating-point number, unless it is infinite or none. -/
def ofFloat? (x : Float) : Option Ratio :=
  match Binary64.ofFloat x with
  | .finite negative mantissa exponent =>
    some (scaled (if negative then -mantissa else mantissa) 2 exponent)
  | _ => none

/-- The shortest decimal of a floating-point number, unless it is infinite or none. -/
def writtenFloat? (x : Float) : Option Ratio :=
  match Binary64.ofFloat x with
  | .finite negative mantissa exponent =>
    let decimal := if mantissa = 0 then ⟨0, 0⟩ else Decimal.shortest .even mantissa exponent
    some (scaled (if negative then -decimal.digits else decimal.digits) 10 decimal.exponent)
  | _ => none

/-- The value of a JSON number. -/
def ofJson? : Json → Option Ratio
  | .integer n => some (ofInt n)
  | .real x => ofFloat? x
  | _ => none

/-- Whether a fraction is less than another one. -/
def less (a b : Ratio) : Bool := a.numerator * b.denominator < b.numerator * a.denominator

/-- Whether two fractions have the same value. -/
def isEqual (a b : Ratio) : Bool := a.numerator * b.denominator = b.numerator * a.denominator

/-- Whether a fraction is a whole number. -/
def isWhole (a : Ratio) : Bool := a.numerator % a.denominator = 0

/-- Whether a fraction is a whole multiple of another one. -/
def isMultipleOf (a b : Ratio) : Bool :=
  a.numerator * b.denominator % (b.numerator * a.denominator) = 0

end Ratio

namespace Json

/-- The floating-point number that is nearest to a number. -/
def nearestReal? : Json → Option Float
  | .integer n => some (Decoder.realOfInteger n)
  | .real x => some x
  | _ => none

/-- Whether a number is a multiple of a step above zero. Where the step is no whole number, the only
multiple below it is zero. -/
def isMultipleOf (value step : Json) : Bool :=
  let result? := do
    let valueReal ← value.nearestReal?
    let stepReal ← step.nearestReal?
    let exact ← Ratio.ofFloat? valueReal
    let exactStep ← Ratio.ofFloat? stepReal
    if exactStep.isWhole then return exact.isWhole && exact.isMultipleOf exactStep
    else if exact.numerator = 0 then return true
    else if exact.less exactStep then return false
    else return (← Ratio.writtenFloat? valueReal).isMultipleOf (← Ratio.writtenFloat? stepReal)
  result?.getD true

/-- Whether two numbers have the same value. -/
def equalNumbers (a b : Json) : Bool :=
  match Ratio.ofJson? a, Ratio.ofJson? b with
  | some a, some b => a.isEqual b
  | _, _ => false

mutual

/-- Whether two values are equal. A whole number is equal to the floating-point number of the same
value. -/
def equal : Json → Json → Bool
  | .null, .null => true
  | .boolean a, .boolean b => a == b
  | .string a, .string b => a == b
  | .array a, .array b => equalItems a b
  | .object a, .object b => equalMembers a b
  | a, b => equalNumbers a b

/-- Whether two lists have equal items. -/
def equalItems : List Json → List Json → Bool
  | [], [] => true
  | a :: as, b :: bs => equal a b && equalItems as bs
  | _, _ => false

/-- Whether two objects have equal members. -/
def equalMembers : List (String × Json) → List (String × Json) → Bool
  | [], [] => true
  | (key, a) :: as, (other, b) :: bs => key == other && equal a b && equalMembers as bs
  | _, _ => false

end

mutual

/-- Whether two values are the same, so that whole numbers differ from all floating-point
numbers. -/
def same : Json → Json → Bool
  | .null, .null => true
  | .boolean a, .boolean b => a == b
  | .integer a, .integer b => a == b
  | .real a, .real b => a.toBits == b.toBits
  | .string a, .string b => a == b
  | .array a, .array b => sameItems a b
  | .object a, .object b => sameMembers a b
  | _, _ => false

/-- Whether two lists have the same items. -/
def sameItems : List Json → List Json → Bool
  | [], [] => true
  | a :: as, b :: bs => same a b && sameItems as bs
  | _, _ => false

/-- Whether two objects have the same members. -/
def sameMembers : List (String × Json) → List (String × Json) → Bool
  | [], [] => true
  | (key, a) :: as, (other, b) :: bs => key == other && same a b && sameMembers as bs
  | _, _ => false

end

/-- Whether no two items of a list are alike. -/
def distinctBy (alike : Json → Json → Bool) : List Json → Bool
  | [] => true
  | item :: rest => !rest.any (alike item) && distinctBy alike rest

/-- The greatest number of items that are compared by their values. In a longer list, only items
that are the same are found. -/
def maxCompared : Nat := 15

/-- Whether no two items of a list are equal. -/
def allDistinct (items : List Json) : Bool :=
  distinctBy (if items.length ≤ maxCompared then equal else same) items

end Json

end ToolDiscovery
