import ToolDiscovery.Text.CaseRun
import ToolDiscovery.Text.Character

/-!
# Lower-casing

The lower-case form of a text. A character goes to its lower-case letter; `İ` becomes two
characters, and `Σ` has a form of its own at the end of a word, so that the form of a text is not
simply that of its characters one by one.
-/

namespace ToolDiscovery.Text

/-- The lower-case form of a character that does not depend on its neighbours. -/
def lowerChar (c : Char) : List Char :=
  if c.toNat < 128 then [c.toLower]
  else if c = 'İ' then ['i', '\u0307']
  else [Char.ofNat (CaseRun.apply CaseRun.lower c.toNat)]

/-- Whether the nearest character that is not ignored in questions of case is a cased letter. -/
def startsCased (text : List Char) : Bool :=
  (text.dropWhile isCaseIgnorable).head?.any isCased

/-- The lower-case form of a sigma: the final form after a cased letter unless one follows. The
text before it is given backwards. -/
def lowerSigma (before after : List Char) : Char :=
  if startsCased before && !startsCased after then 'ς' else 'σ'

/-- The lower-case form of a text that follows another one, which is given backwards. -/
def lowerAfter (before : List Char) : List Char → List Char
  | [] => []
  | c :: rest =>
    if c = 'Σ' then lowerSigma before rest :: lowerAfter (c :: before) rest
    else lowerChar c ++ lowerAfter (c :: before) rest

/-- The lower-case form of a text. -/
def lower (text : List Char) : List Char := lowerAfter [] text

end ToolDiscovery.Text
