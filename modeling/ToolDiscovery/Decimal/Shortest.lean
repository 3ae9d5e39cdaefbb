import ToolDiscovery.Decimal.Binary64

/-!
# The fewest digits that identify a number

The reals that round to a floating-point number form an interval around it. `shortest` finds the
decimal with the fewest digits in that interval, and among those the nearest to the number: for one,
two, three, … digits it tries the two neighbours of the number on the grid of decimals with that
many digits.
-/

namespace ToolDiscovery.Decimal

/-- Which of two decimals is taken that are equally near. -/
inductive Tie where
  /-- The one whose last digit is even. -/
  | even
  /-- The greater one. -/
  | up
deriving DecidableEq, Repr

/-- The decimal `digits · 10 ^ exponent`. -/
structure Scientific where
  /-- The digits as one number. -/
  digits : Nat
  /-- The power of ten of the last digit. -/
  exponent : Int
deriving DecidableEq, Repr

/-- A positive number with the interval of reals that round to it, all as numerators over one
denominator. -/
structure Rounding where
  /-- The number. -/
  value : Nat
  /-- The lower end of the interval. -/
  low : Nat
  /-- The upper end of the interval. -/
  high : Nat
  /-- The common denominator. -/
  scale : Nat
  /-- Whether the ends belong to the interval. -/
  closed : Bool

/-- The interval of `mantissa · 2 ^ exponent`. It reaches halfway to the neighbours, of which the
lower one is nearer if the mantissa is the least of its binade. -/
def Rounding.ofFinite (mantissa : Nat) (exponent : Int) : Rounding :=
  let up := 1 <<< exponent.toNat
  let below := if mantissa = Binary64.leadingBit ∧ -1074 < exponent then 1 else 2
  { value := 4 * mantissa * up, low := (4 * mantissa - below) * up, high := (4 * mantissa + 2) * up
    scale := 4 <<< (-exponent).toNat, closed := mantissa % 2 = 0 }

/-- The power of ten of the leading digit of `value / scale`. It is guessed from the binary lengths
and then corrected by one, up or down. -/
def leadingExponent (value scale : Nat) : Int :=
  let guess := ((value.log2 : Int) - (scale.log2 : Int)) * 30103 / 100000
  let reaches (p : Int) : Bool := Nat.pow 10 p.toNat * scale ≤ value * Nat.pow 10 (-p).toNat
  if reaches (guess + 1) then guess + 1 else if reaches guess then guess else guess - 1

/-- The neighbour of a number on the grid of multiples of `10 ^ exponent` that lies in its interval,
the nearer one if both do. -/
def Rounding.onGrid (r : Rounding) (tie : Tie) (exponent : Int) : Option Nat :=
  let unit := r.scale * Nat.pow 10 exponent.toNat
  let lift := Nat.pow 10 (-exponent).toNat
  let value := r.value * lift
  let floor := value / unit
  let inside (d : Nat) : Bool :=
    let point := d * unit
    (r.low * lift < point || (r.closed && r.low * lift == point)) &&
      (point < r.high * lift || (r.closed && r.high * lift == point))
  let toFloor := value - floor * unit
  let toCeiling := (floor + 1) * unit - value
  if inside floor && 0 < floor then
    if inside (floor + 1) && (toCeiling < toFloor ||
        (toCeiling == toFloor && (tie == .up || floor % 2 == 1))) then some (floor + 1)
    else some floor
  else if inside (floor + 1) then some (floor + 1)
  else none

/-- Moves the zeros at the end of the digits into the exponent, at most `fuel` of them. -/
def Scientific.stripZeros : (fuel : Nat) → Scientific → Scientific
  | 0, s => s
  | fuel + 1, s =>
    if s.digits ≠ 0 ∧ s.digits % 10 = 0 then stripZeros fuel ⟨s.digits / 10, s.exponent + 1⟩ else s

/-- The decimal with the fewest digits that identifies the positive number
`mantissa · 2 ^ exponent`. Seventeen digits always suffice. -/
def shortest (tie : Tie) (mantissa : Nat) (exponent : Int) : Scientific :=
  let rounding := Rounding.ofFinite mantissa exponent
  let leading := leadingExponent rounding.value rounding.scale
  let found := (List.range 18).findSome? fun (count : Nat) =>
    let last := leading - count
    (rounding.onGrid tie last).map fun digits => (⟨digits, last⟩ : Scientific)
  (found.getD ⟨0, 0⟩).stripZeros 20

end ToolDiscovery.Decimal
