import ToolDiscovery.Decimal.Binary64

/-!
# Natural logarithms

The logarithm of a floating-point number is computed with natural numbers that count a very small
unit, and rounded to a floating-point number at the end. The series for the logarithm of a ratio
near one does the work; powers of two are taken out of the number before.
-/

namespace ToolDiscovery.Logarithm

/-- The unit is one divided by two to this power. -/
def precision : Nat := 128

/-- The sum of the given number of terms `p / n + p * s / (n + 2) + p * s * s / (n + 4) + …`, where
`p` is a power of the ratio and `s` its square, both in units. -/
def series (square : Nat) : (terms : Nat) → (power odd : Nat) → Nat
  | 0, _, _ => 0
  | terms + 1, power, odd =>
    power / odd + series square terms ((power * square) >>> precision) (odd + 2)

/-- The logarithm of `a / b` in units, where `b ≤ a ≤ 2 * b`. It is twice the series of the odd
powers of `(a - b) / (a + b)`, each of which adds at least three bits. -/
def ofRatio (a b : Nat) : Nat :=
  let ratio := ((a - b) <<< precision) / (a + b)
  2 * series ((ratio * ratio) >>> precision) (precision / 3) ratio 1

/-- The logarithm of two in units. -/
def two : Nat := ofRatio 2 1

/-- The logarithm of `mantissa * 2 ^ exponent`. -/
def ofPositive (mantissa : Nat) (exponent : Int) : Float :=
  let units : Int := (exponent + mantissa.log2) * two + ofRatio mantissa (1 <<< mantissa.log2)
  .ofModel (.pack (.normalize .binary64 units (-precision) .positive))

/-- The logarithm of a floating-point number. That of zero is infinitely small, and a negative
number has none. -/
def natural (x : Float) : Float :=
  match Binary64.ofFloat x with
  | .finite _ 0 _ => -1.0 / 0.0
  | .finite false mantissa exponent => ofPositive mantissa exponent
  | .infinite false => x
  | .finite true _ _ | .infinite true | .notANumber => 0.0 / 0.0

end ToolDiscovery.Logarithm
