import ToolDiscovery.Text.Category
import ToolDiscovery.Text.Property

/-!
# Characters of edition 17

The tables of properties are those of edition 16 of the standard, which patterns go by. Texts go by
edition 17. This module adds what that edition has added, and answers what texts ask about their
characters.
-/

namespace ToolDiscovery.Text

/-- The letters that edition 17 added. -/
def recentLetters : RangeTable := .ofHex
  "88F C5C CDC A7CE-A7CF A7D2 A7D4 A7F1 10940-10959 10EC5-10EC7 10EFA-10EFB 11B60-11B67 11DB0-11DDB
  16EA0-16EB8 16EBB-16ED3 16FF2-16FF6 187F8-187FF 18D09-18D1E 18D80-18DF2 1E6C0-1E6DE 1E6E0-1E6F5
  1E6FE-1E6FF 2B73A-2B73F 2CEA2-2CEAD 323B0-33479"

/-- The numbers that edition 17 added. -/
def recentNumbers : RangeTable := .ofHex
  "11DE0-11DE9 16FF4-16FF6"

/-- The letters with case that edition 17 added. -/
def recentCased : RangeTable := .ofHex
  "A7CE-A7CF A7D2 A7D4 A7F1 16EA0-16EB8 16EBB-16ED3"

/-- The characters ignored in questions of case that edition 17 added. -/
def recentCaseIgnorable : RangeTable := .ofHex
  "1ACF-1ADD 1AE0-1AEB A7F1 10EC5 10EFA-10EFB 11B60 11B62-11B64 11B66 11DD9 16FF2-16FF3 1E6E3 1E6E6
  1E6EE-1E6EF 1E6F5 1E6FF"

/-- The marks that join the character before them that edition 17 added. -/
def recentExtend : RangeTable := .ofHex
  "1ACF-1ADD 1AE0-1AEB 10EFA-10EFB 11B60 11B62-11B64 11B66 1E6E3 1E6E6 1E6EE-1E6EF 1E6F5"

/-- The visible characters that edition 17 added. -/
def recentVisible : RangeTable := .ofHex
  "88F C5C CDC 1ACF-1ADD 1AE0-1AEB 20C1 2B96 A7CE-A7CF A7D2 A7D4 A7F1 FBC3-FBD2 FD90-FD91 FDC8-FDCE
  10940-10959 10EC5-10EC7 10ED0-10ED8 10EFA-10EFB 11B60-11B67 11DB0-11DDB 11DE0-11DE9 16EA0-16EB8
  16EBB-16ED3 16FF2-16FF6 187F8-187FF 18D09-18D1E 18D80-18DF2 1CCFA-1CCFC 1CEBA-1CED0 1CEE0-1CEF0
  1E6C0-1E6DE 1E6E0-1E6F5 1E6FE-1E6FF 1F6D8 1F777-1F77A 1F8D0-1F8D8 1FA54-1FA57 1FA8A 1FA8E 1FAC8
  1FACD 1FAEA 1FAEF 1FBFA 2B73A-2B73F 2CEA2-2CEAD 323B0-33479"

/-- Whether a character counts as a letter, in any script. -/
def isAlphabetic (c : Char) : Bool :=
  if c.toNat < 128 then c.isAlpha
  else Property.alphabeticTable.contains c.toNat || recentLetters.contains c.toNat

/-- Whether a character counts as a number, in any script. -/
def isNumeric (c : Char) : Bool :=
  if c.toNat < 128 then c.isDigit
  else Category.anyContains Category.numbers c || recentNumbers.contains c.toNat

/-- Whether a character is a letter with case. The voiced pharyngeal fricative has lost its own. -/
def isCased (c : Char) : Bool :=
  if c.toNat < 128 then c.isAlpha
  else
    (Property.casedTable.contains c.toNat && c != '\u0295') || recentCased.contains c.toNat

/-- The basic Latin characters that are ignored in questions of case. -/
def latinCaseIgnorable : List Char := ['\x27', '.', ':', '^', '\x60']

/-- Whether a character is ignored in questions of case. -/
def isCaseIgnorable (c : Char) : Bool :=
  if c.toNat < 128 then latinCaseIgnorable.contains c
  else Property.caseIgnorableTable.contains c.toNat || recentCaseIgnorable.contains c.toNat

/-- Whether a character joins the one before it. -/
def isExtend (c : Char) : Bool :=
  Property.graphemeExtendTable.contains c.toNat || recentExtend.contains c.toNat

/-- The fillers of Hangul, which are letters without a form. -/
def fillers : List Char := ['\u115F', '\u1160', '\u3164', '\uFFA0']

/-- Whether a character leaves a mark of its own on paper: spaces other than the common one, control
characters, unassigned code points and fillers do not. -/
def isVisible (c : Char) : Bool :=
  if c.toNat < 127 then 32 ≤ c.toNat
  else
    (!Category.anyContains (Category.others ++ Category.separators) c ||
      recentVisible.contains c.toNat) &&
    !fillers.contains c

end ToolDiscovery.Text
