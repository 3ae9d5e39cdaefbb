import ToolDiscovery.Relevance.Arithmetic

/-!
# Rankings

A ranking puts what has a score in order: a higher score comes first, and of equal scores the one
that stands earlier in the catalog.
-/

namespace ToolDiscovery

/-- A position in a catalog with its score. -/
structure Scored (α : Type) where
  /-- The position, counted from zero. -/
  position : Nat
  /-- How well it matches. -/
  score : α
deriving Repr, DecidableEq

namespace Scored

variable {α : Type} [Arithmetic α]

/-- Whether the first one may stand before the second one in a ranking. -/
def ranksBefore (a b : Scored α) : Bool :=
  Arithmetic.atLeast a.score b.score &&
    (!Arithmetic.atLeast b.score a.score || a.position ≤ b.position)

/-- Puts everything that has a score in order. -/
def rank (scored : List (Scored α)) : List (Scored α) := scored.mergeSort ranksBefore

/-- The best ones in order, at most as many as the limit says. -/
def best (limit : Nat) (scored : List (Scored α)) : List (Scored α) := (rank scored).take limit

end Scored

end ToolDiscovery
