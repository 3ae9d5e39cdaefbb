import ToolDiscovery.Relevance.Logarithm

/-!
# The numbers that scores are computed with

Searches compute with 64-bit floating-point numbers. The formulas of relevance need no more than the
operations of `Arithmetic`, so that they can be read over other numbers too.
-/

namespace ToolDiscovery

/-- Numbers that scores can be computed with and ranked by. -/
class Arithmetic (α : Type) extends Add α, Sub α, Mul α, Div α where
  /-- The number that a count stands for. -/
  ofNat : Nat → α
  /-- One half. -/
  half : α
  /-- The natural logarithm. -/
  log : α → α
  /-- Whether a number is greater than zero. -/
  isPositive : α → Bool
  /-- Whether the first number ranks at least as high as the second one. -/
  atLeast : α → α → Bool

/-- Floating-point numbers are ranked by their total order, in which no two different numbers have
the same place. -/
instance : Arithmetic Float where
  ofNat := Float.ofNat
  half := 0.5
  log := Logarithm.natural
  isPositive x := 0.0 < x
  atLeast x y := totalOrderKey y ≤ totalOrderKey x

end ToolDiscovery
