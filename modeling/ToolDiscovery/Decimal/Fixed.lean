import ToolDiscovery.Decimal.Binary64

/-!
# Numbers with a set count of places

`fixed places x` writes a number with exactly that many digits after the point, rounded from the
exact value, where a half goes to the even neighbour.
-/

namespace ToolDiscovery.Decimal

/-- The quotient rounded to the nearest natural number, a half to the even one. -/
def roundDiv (numerator denominator : Nat) : Nat :=
  let quotient := numerator / denominator
  let twice := 2 * (numerator % denominator)
  if twice < denominator then quotient
  else if denominator < twice then quotient + 1
  else quotient + quotient % 2

/-- The nearest natural number to `mantissa · 2 ^ exponent`, a half to the even one. -/
def roundScaled (mantissa : Nat) (exponent : Int) : Nat :=
  if 0 ≤ exponent then mantissa <<< exponent.toNat
  else roundDiv mantissa (1 <<< (-exponent).toNat)

/-- The digits of a natural number, with zeros in front up to the given width. -/
def paddedDigits (width n : Nat) : List Char :=
  let digits := Nat.toDigits 10 n
  List.replicate (width - digits.length) '0' ++ digits

/-- A count of units of `10 ^ -places`, with a point before the last `places` digits. -/
def placeText (places units : Nat) : String :=
  let digits := paddedDigits (places + 1) units
  let whole := digits.take (digits.length - places)
  let part := digits.drop (digits.length - places)
  .ofList (if places = 0 then whole else whole ++ '.' :: part)

/-- A number with the given count of digits after the point. -/
def fixed (places : Nat) (x : Float) : String :=
  match Binary64.ofFloat x with
  | .finite negative mantissa exponent =>
    let units := roundScaled (mantissa * Nat.pow 10 places) exponent
    (if negative then "-" else "") ++ placeText places units
  | .infinite negative => if negative then "-inf" else "inf"
  | .notANumber => "NaN"

end ToolDiscovery.Decimal
