import ToolDiscovery.Pattern.Parser
import ToolDiscovery.Pattern.Space

/-!
# Search patterns

A search pattern is any text of at most `maxLength` characters. If it is the written form of an
expression that is not too large, that expression is searched for. Otherwise the text itself is,
where case does not matter. So every such text can be searched for.
-/

namespace ToolDiscovery.Pattern

/-- The expression for a text itself, in upper or lower case. -/
def Expr.literal (text : List Char) : Expr :=
  text.foldr (fun c e => .sequence (Parse.charsOf (.folded true (.single c))) e) .empty

/-- The expression that is searched for when a text is given as the pattern. -/
def Expr.compile (text : String) : Expr :=
  match Expr.parse? text with
  | some e => if e.layout.fits then e else .literal text.toList
  | none => .literal text.toList

/-- The greatest number of characters of a pattern. -/
def maxLength : Nat := 200

end ToolDiscovery.Pattern
