import ToolDiscovery.Text.Character
import ToolDiscovery.Text.Lowercase
import ToolDiscovery.Text.Runs

/-!
# Tokens

The tokens of a text are the maximal runs of word characters in its lower-case form. They are what
keyword search counts and compares.
-/

namespace ToolDiscovery.Text

/-- Whether a character counts as a letter or a number. -/
def isAlphanumeric (c : Char) : Bool := isAlphabetic c || isNumeric c

/-- Whether a character belongs to words: letters, numbers and the low line. -/
def isWordChar (c : Char) : Bool := c == '_' || isAlphanumeric c

/-- The tokens of a text, in order. -/
def tokenize (text : String) : List String :=
  (runs isWordChar (lower text.toList)).map String.ofList

end ToolDiscovery.Text
