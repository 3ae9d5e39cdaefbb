/-!
# What a floating-point number stands for

A 64-bit floating-point number is a signed multiple of a power of two, an infinity or no number.
`Binary64.ofFloat` takes it apart exactly, so that everything that is written about numbers can be
computed with natural numbers.
-/

namespace ToolDiscovery

/-- The meaning of a 64-bit floating-point number. -/
inductive Binary64 where
  /-- The number `mantissa · 2 ^ exponent`, or its negative. -/
  | finite (negative : Bool) (mantissa : Nat) (exponent : Int)
  /-- Positive or negative infinity. -/
  | infinite (negative : Bool)
  /-- Not a number. -/
  | notANumber
deriving DecidableEq, Repr

namespace Binary64

/-- The bit for the sign of a number. -/
def signBit : Nat := 1 <<< 63

/-- The leading bit of a mantissa, which is not stored. It stands where the exponent begins. -/
def leadingBit : Nat := 1 <<< 52

/-- Takes apart the bits of a number: one for the sign, eleven for the exponent, and the rest. -/
def ofBits (bits : Nat) : Binary64 :=
  let negative := bits / signBit % 2 == 1
  let exponent : Nat := bits / leadingBit % 2048
  let fraction : Nat := bits % leadingBit
  if exponent = 2047 then
    if fraction = 0 then .infinite negative else .notANumber
  else if exponent = 0 then .finite negative fraction (-1074)
  else .finite negative (leadingBit + fraction) ((exponent : Int) - 1075)

/-- What a floating-point number stands for. -/
def ofFloat (x : Float) : Binary64 := ofBits x.toBits.toNat

end Binary64

/-- The place of a number in the total order of floating-point numbers: negative numbers are ordered
by their bits downwards, the others upwards. -/
def totalOrderKey (x : Float) : Int :=
  let bits := x.toBits.toNat
  if bits < Binary64.signBit then bits else (Binary64.signBit : Int) - 1 - bits

end ToolDiscovery
