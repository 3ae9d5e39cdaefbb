/-!
# Shortening long results

A result that takes more bytes than allowed is cut between two characters, and a notice tells how
long it was.
-/

namespace ToolDiscovery.Truncation

/-- The longest start of a text that takes at most the given number of bytes. -/
def fitting : (bytes : Nat) → List Char → List Char
  | _, [] => []
  | bytes, c :: rest =>
    if c.utf8Size ≤ bytes then c :: fitting (bytes - c.utf8Size) rest else []

/-- What follows the part that is kept of a text with the given number of bytes. -/
def notice (total : Nat) : String := "...\n[truncated: " ++ toString total ++ " bytes total]"

end ToolDiscovery.Truncation

namespace ToolDiscovery

/-- A text that takes at most the given number of bytes is left as it is; of a longer one a start
that fits is kept, and a notice follows it. -/
def truncate (text : String) (bytes : Nat) : String :=
  if text.utf8ByteSize ≤ bytes then text
  else .ofList (Truncation.fitting bytes text.toList) ++ Truncation.notice text.utf8ByteSize

end ToolDiscovery
