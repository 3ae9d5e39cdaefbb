import ToolDiscovery.Decimal.Shortest

/-!
# Styles of writing numbers

A `Style` says where positional writing ends and how whole numbers look; `Style.render` writes a
number in it, with the fewest digits that identify it.
-/

namespace ToolDiscovery.Decimal

/-- How the digits of a number are laid out. -/
structure Style where
  /-- Whether numbers whose leading digit has the given power of ten are written positionally. -/
  positional : Int → Bool
  /-- Whether a whole number in positional writing ends in `.0`. -/
  wholePoint : Bool
  /-- Which of two equally near decimals is taken. -/
  tie : Tie

/-- Lays the digits out with the point at the position that `leading`, the power of ten of the first
digit, gives it. -/
def Style.layoutPositional (style : Style) (digits : List Char) (leading : Int) : List Char :=
  if leading < 0 then
    '0' :: '.' :: List.replicate ((-leading).toNat - 1) '0' ++ digits
  else
    let whole := leading.toNat + 1
    if digits.length ≤ whole then
      let point := if style.wholePoint then ['.', '0'] else []
      digits ++ List.replicate (whole - digits.length) '0' ++ point
    else digits.take whole ++ '.' :: digits.drop whole

/-- Lays the digits out with one digit before the point and a signed exponent. -/
def layoutScientific (digits : List Char) (leading : Int) : List Char :=
  let exponent := (if leading < 0 then '-' else '+') :: Nat.toDigits 10 leading.natAbs
  match digits with
  | [] => []
  | [d] => d :: 'e' :: exponent
  | d :: rest => d :: '.' :: rest ++ 'e' :: exponent

/-- Writes a decimal. -/
def Style.layout (style : Style) (s : Scientific) : List Char :=
  let digits := Nat.toDigits 10 s.digits
  let leading := s.exponent + digits.length - 1
  if style.positional leading then style.layoutPositional digits leading
  else layoutScientific digits leading

/-- Writes a number with the fewest digits that identify it. -/
def Style.render (style : Style) (x : Float) : String :=
  match Binary64.ofFloat x with
  | .finite negative mantissa exponent =>
    let digits := if mantissa = 0 then ⟨0, 0⟩ else shortest style.tie mantissa exponent
    .ofList ((if negative then ['-'] else []) ++ style.layout digits)
  | .infinite negative => if negative then "-inf" else "inf"
  | .notANumber => "NaN"

/-- Numbers in messages are always positional, and whole ones have no point. -/
def plain : Style where
  positional _ := true
  wholePoint := false
  tie := .up

end ToolDiscovery.Decimal
