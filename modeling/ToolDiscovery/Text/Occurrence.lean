/-!
# Occurrences

A text occurs in another one if it is what stands there from some place on.
-/

namespace ToolDiscovery.Text

/-- Whether a text occurs in another one. The empty text occurs everywhere. -/
def occursIn (part : List Char) : List Char → Bool
  | [] => part.isEmpty
  | c :: rest => part.isPrefixOf (c :: rest) || occursIn part rest

end ToolDiscovery.Text
