import ToolDiscovery.Text.Blank

/-!
# Previews

A preview shows the start of a text in one line.
-/

namespace ToolDiscovery.Text

/-- What stands for the rest of a text. -/
def ellipsis : List Char := ['.', '.', '.']

/-- A text with single spaces between its words. If it has more characters than allowed, an ellipsis
takes the place of those that do not fit beside it. -/
def previewChars (most : Nat) (text : List Char) : List Char :=
  let flat := collapse text
  if flat.length ≤ most then flat else flat.take (most - ellipsis.length) ++ ellipsis

/-- A text in one line of at most the given number of characters. -/
def preview (most : Nat) (text : String) : String := .ofList (previewChars most text.toList)

end ToolDiscovery.Text
