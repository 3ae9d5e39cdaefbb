import ToolDiscovery.Text.CaseRun

/-!
# Characters that differ in case only

Two characters are mates if simple case folding sends them to the same character. Every character is
a mate of itself. Among the letters of the basic Latin alphabet, `k` and `s` have a mate outside of
it: the Kelvin sign and the long s.
-/

namespace ToolDiscovery.Text

/-- The form of a letter that stands for all its mates. -/
def foldChar (c : Char) : Char :=
  if c.toNat < 128 then c.toLower else Char.ofNat (CaseRun.apply CaseRun.fold c.toNat)

/-- The two forms of a basic Latin letter; any other character alone. -/
def latinMates (c : Char) : List Char :=
  if c.isUpper ∨ c.isLower then [c.toLower, c.toUpper] else [c]

/-- The characters outside of the basic Latin alphabet that fold to a letter of it. -/
def outerMates (c : Char) : List Char :=
  if c = 'k' ∨ c = 'K' then ['\u212a'] else if c = 's' ∨ c = 'S' then ['\u017f'] else []

/-- All mates of a character. -/
def caseMates (c : Char) : List Char :=
  if c.toNat < 128 then latinMates c ++ outerMates c
  else
    let folded := (foldChar c).toNat
    (folded :: CaseRun.sources CaseRun.fold folded).map Char.ofNat

/-- The characters that have other mates, each with its mates. Some families are named twice. -/
def caseFamilies : List (List Char) :=
  CaseRun.fold.flatMap fun run => run.members.map fun n => caseMates (Char.ofNat n)

/-- The basic Latin letters, each in its two forms. -/
def latinFamilies : List (List Char) :=
  (List.range 26).map fun n => latinMates (Char.ofNat ('a'.toNat + n))

end ToolDiscovery.Text
