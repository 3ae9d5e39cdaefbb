/-!
# Splitting texts

A text is split at every occurrence of a character, which itself is dropped.
-/

namespace ToolDiscovery.Text

/-- Puts a character in front of the first part. -/
def pushFirst (c : Char) : List (List Char) → List (List Char)
  | [] => [[c]]
  | first :: rest => (c :: first) :: rest

/-- The parts of a text between the occurrences of a character. There is one more of them than
occurrences. -/
def splitAt (separator : Char) : List Char → List (List Char)
  | [] => [[]]
  | c :: rest =>
    if c = separator then [] :: splitAt separator rest else pushFirst c (splitAt separator rest)

end ToolDiscovery.Text
