import ToolDiscovery.Text.Runs

/-!
# Blank characters

Blank characters are those with the property White Space. Trimming takes them off both ends, words
are what stands between them, and collapsing leaves one space between two words.
-/

namespace ToolDiscovery.Text

/-- Whether a character is white space: blanks and line breaks of every script. -/
def isBlank (c : Char) : Bool :=
  let n := c.toNat
  n == 0x20 || (0x09 ≤ n && n ≤ 0x0D) || n == 0x85 || n == 0xA0 || n == 0x1680 ||
    (0x2000 ≤ n && n ≤ 0x200A) || n == 0x2028 || n == 0x2029 || n == 0x202F || n == 0x205F ||
    n == 0x3000

/-- Takes the blank characters off both ends. -/
def trimChars (text : List Char) : List Char :=
  ((text.dropWhile isBlank).reverse.dropWhile isBlank).reverse

/-- Takes the blank characters off both ends. -/
def trim (text : String) : String := .ofList (trimChars text.toList)

/-- Whether every character is blank; so is the empty text. -/
def isBlankText (text : String) : Bool := text.toList.all isBlank

/-- The words of a text, which are its maximal runs without a blank character. -/
def words (text : List Char) : List (List Char) := runs (!isBlank ·) text

/-- The words of a text with one space between neighbours. -/
def collapse (text : List Char) : List Char := List.intercalate [' '] (words text)

end ToolDiscovery.Text
