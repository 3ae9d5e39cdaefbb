import ToolDiscovery.Json.Cursor

/-!
# Reading numbers

A whole number without point and exponent is kept exactly if it fits. All other numbers become
floating-point numbers: the leading digits are collected as long as they fit into 64 bits, and the
result is multiplied or divided by a power of ten.
-/

namespace ToolDiscovery.Json

/-- Whether a character is a decimal digit. -/
def isDigit (c : Char) : Bool := '0' ≤ c && c ≤ '9'

/-- The value of a decimal digit. -/
def digitValue (c : Char) : Nat := c.toNat - '0'.toNat

/-- The collected digits of a number and the power of ten that they are to be multiplied by. -/
structure Significand where
  /-- The digits that fitted. -/
  digits : Nat
  /-- The power of ten. -/
  exponent : Int
  /-- Whether a digit did not fit. -/
  full : Bool
deriving Inhabited

/-- Adds a digit before the point. Once one did not fit, the others count only for their place. -/
def Significand.addWhole (s : Significand) (c : Char) : Significand :=
  let extended := s.digits * 10 + digitValue c
  if s.full || maxInteger < extended then { s with exponent := s.exponent + 1, full := true }
  else { s with digits := extended }

/-- Adds a digit after the point. Once one did not fit, the others do not count. -/
def Significand.addPart (s : Significand) (c : Char) : Significand :=
  let extended := s.digits * 10 + digitValue c
  if s.full || maxInteger < extended then { s with full := true }
  else { s with digits := extended, exponent := s.exponent - 1 }

/-- The powers of ten up to this exponent are floating-point numbers. -/
def maxPower : Nat := 308

/-- A power of ten as a floating-point number. -/
def powerOfTen (n : Nat) : Float := Float.ofScientific 1 false n

/-- Multiplies a number by a power of ten; nothing if the result is out of range. Small powers are
taken out in steps. -/
def scaleByPower : (fuel : Nat) → Float → Int → Option Float
  | 0, x, _ => some x
  | fuel + 1, x, exponent =>
    if exponent.natAbs ≤ maxPower then
      if 0 ≤ exponent then
        let product := x * powerOfTen exponent.toNat
        if product.isInf then none else some product
      else some (x / powerOfTen exponent.natAbs)
    else if x == 0.0 then some x
    else if 0 ≤ exponent then none
    else scaleByPower fuel (x / powerOfTen maxPower) (exponent + maxPower)

/-- The number that the collected digits stand for. -/
def realOf (negative : Bool) (s : Significand) : Reader Json := do
  -- Two steps bring every number of at most twenty digits to zero.
  match scaleByPower 4 s.digits.toUInt64.toFloat s.exponent with
  | none => failHere .numberOutOfRange
  | some x => pure (.real (if negative then -x else x))

/-- The greatest exponent that is counted. -/
def maxExponent : Nat := 0x7fffffff

/-- The least and the greatest power of ten that is distinguished. -/
def clampExponent (n : Int) : Int := max (-0x80000000) (min maxExponent n)

/-- Reads the digits of an exponent. One that is too great makes the number zero or, if its sign is
positive and the number is not zero, puts it out of range. -/
def exponentDigits (negative : Bool) (s : Significand) (minus : Bool) :
    (value : Nat) → (fuel : Nat) → Reader Json
  | _, 0 => realOf negative s
  | value, fuel + 1 => do
    match ← peek? with
    | some c =>
      if isDigit c then
        skipChar
        let extended := value * 10 + digitValue c
        if maxExponent < extended then
          if s.digits ≠ 0 ∧ !minus then failHere .numberOutOfRange
          else
            let _ ← takeWhile isDigit
            pure (.real (if negative then -0.0 else 0.0))
        else exponentDigits negative s minus extended fuel
      else finish value
    | none => finish value
where
  /-- The number with the given exponent. -/
  finish (value : Nat) : Reader Json :=
    realOf negative { s with
      exponent := clampExponent (if minus then s.exponent - value else s.exponent + value) }

/-- Reads an exponent from its mark on. -/
def exponentPart (negative : Bool) (s : Significand) : Reader Json := do
  skipChar
  let sign ← peek?
  if sign = some '+' ∨ sign = some '-' then skipChar
  match ← peek? with
  | none => failHere .endInValue
  | some c =>
    if isDigit c then exponentDigits negative s (sign = some '-') 0 (← bound)
    else failNext .invalidNumber

/-- Reads an exponent if there is one. -/
def exponentOrEnd (negative : Bool) (s : Significand) : Reader Json := do
  match ← peek? with
  | some 'e' | some 'E' => exponentPart negative s
  | _ => realOf negative s

/-- Reads the digits after the point, from the point on. -/
def fractionPart (negative : Bool) (s : Significand) : Reader Json := do
  skipChar
  let digits ← takeWhile isDigit
  if digits.isEmpty then
    match ← peek? with
    | none => failHere .endInValue
    | some _ => failNext .invalidNumber
  else exponentOrEnd negative (digits.foldl Significand.addPart { s with full := false })

/-- The whole number that the digits stand for. A negative zero is no whole number, nor is one that
does not fit. -/
def wholeOf (negative : Bool) (digits : Nat) : Json :=
  if negative then
    if digits = 0 ∨ -(digits : Int) < minInteger then .real (-digits.toUInt64.toFloat)
    else .integer (-digits)
  else .integer digits

/-- Reads a number whose sign has been read. -/
def number (negative : Bool) : Reader Json := do
  match ← peek? with
  | none => failHere .endInValue
  | some first =>
    if !isDigit first then failNext .invalidNumber
    else
      let s ← whole first
      match ← peek? with
      | some '.' => fractionPart negative s
      | some 'e' | some 'E' => exponentPart negative s
      | _ => if s.full then realOf negative s else pure (wholeOf negative s.digits)
where
  /-- Reads the digits before the point, among which a zero stands first only if it is alone. -/
  whole (first : Char) : Reader Significand := do
    if first = '0' then
      skipChar
      match ← peek? with
      | some c => if isDigit c then failNext .invalidNumber else pure ⟨0, 0, false⟩
      | none => pure ⟨0, 0, false⟩
    else
      let digits ← takeWhile isDigit
      pure (digits.foldl Significand.addWhole ⟨0, 0, false⟩)

end ToolDiscovery.Json
