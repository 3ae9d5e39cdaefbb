import ToolDiscovery.Pattern.CharClass
import ToolDiscovery.Text.Age
import ToolDiscovery.Text.BreakKind
import ToolDiscovery.Text.Category
import ToolDiscovery.Text.Property
import ToolDiscovery.Text.Script

/-!
# Classes by name

Patterns name classes of characters: `[:alpha:]` a few fixed ones, `\p…` the general categories,
scripts, ages and other properties. In the names of the latter, case, blanks, dashes, low lines and
a leading `is` do not matter.
-/

namespace ToolDiscovery.Pattern

/-- The classes that may be named inside brackets. -/
def bracketClasses : List (String × List (Nat × Nat)) := [
  ("alnum", [(0x30, 0x39), (0x41, 0x5A), (0x61, 0x7A)]),
  ("alpha", [(0x41, 0x5A), (0x61, 0x7A)]),
  ("ascii", [(0x00, 0x7F)]),
  ("blank", [(0x09, 0x09), (0x20, 0x20)]),
  ("cntrl", [(0x00, 0x1F), (0x7F, 0x7F)]),
  ("digit", [(0x30, 0x39)]),
  ("graph", [(0x21, 0x7E)]),
  ("lower", [(0x61, 0x7A)]),
  ("print", [(0x20, 0x7E)]),
  ("punct", [(0x21, 0x2F), (0x3A, 0x40), (0x5B, 0x60), (0x7B, 0x7E)]),
  ("space", [(0x09, 0x0D), (0x20, 0x20)]),
  ("upper", [(0x41, 0x5A)]),
  ("word", [(0x30, 0x39), (0x41, 0x5A), (0x5F, 0x5F), (0x61, 0x7A)]),
  ("xdigit", [(0x30, 0x39), (0x41, 0x46), (0x61, 0x66)])]

/-- A class that may be named inside brackets. -/
def bracketClass? (name : String) : Option CharClass :=
  (bracketClasses.lookup name).map .ranges

/-- The form of a name in which it is compared. -/
def looseName (name : String) : String :=
  let letters := name.toList
  let named := letters.take 2 |>.map Char.toLower
  let hasIs := named == ['i', 's']
  let kept := ((if hasIs then letters.drop 2 else letters).filter fun c =>
    c != ' ' && c != '_' && c != '-' && c.toNat < 128).map Char.toLower
  .ofList (if hasIs && kept == ['c'] then ['i', 's', 'c'] else kept)

/-- Whether one of the names is meant. -/
def named (wanted : String) (names : List String) : Bool :=
  names.any fun name => looseName name == wanted

/-- The groups of general categories, with their names. -/
def categoryGroups : List (List String × List Category) := [
  (["LC", "Cased_Letter"], Category.casedLetters),
  (["L", "Letter"], Category.letters),
  (["M", "Mark", "Combining_Mark"], Category.marks),
  (["N", "Number"], Category.numbers),
  (["P", "Punctuation", "punct"], Category.punctuation),
  (["S", "Symbol"], Category.symbols),
  (["Z", "Separator"], Category.separators),
  (["C", "Other"], Category.others),
  (["cntrl"], [.control]),
  (["digit"], [.decimalNumber])]

/-- A general category or a group of them. Surrogates are no characters, so their category is no
class. -/
def categoryClass? (wanted : String) : Option CharClass :=
  if wanted = "any" then some (.complement .none)
  else if wanted = "assigned" then some (.complement (.property Category.unassigned.table))
  else if wanted = "ascii" then some (.range 0x00 0x7F)
  else
    match Category.all.find? fun category => named wanted [category.names.1, category.names.2] with
    | some .surrogate => none
    | some category => some (.property category.table)
    | none =>
      (categoryGroups.find? fun group => named wanted group.1).map fun group =>
        .properties (group.2.map Category.table)

/-- The script of a name. -/
def script? (wanted : String) : Option Script :=
  Script.all.find? fun script => named wanted script.names

/-- The characters that are at least as old as the age of a name. -/
def ageClass? (wanted : String) : Option CharClass :=
  let later := Age.all.dropWhile fun age => !named wanted age.names
  if later.isEmpty then none
  else some (.properties ((Age.all.take (Age.all.length + 1 - later.length)).map Age.table))

/-- The characters of a kind at breaks. -/
def breakClass? (kinds : List BreakKind) (wanted : String) : Option CharClass :=
  (kinds.find? fun kind => named wanted kind.names).map fun kind => .property kind.table

/-- The class of a property name alone: a property, a general category or a script. Three names are
those of categories although properties have them too. -/
def propertyClass? (name : String) : Option CharClass :=
  let wanted := looseName name
  let property? :=
    if wanted = "cf" ∨ wanted = "sc" ∨ wanted = "lc" then none
    else Property.all.find? fun property => named wanted property.names
  match property? with
  | some property => some (.property property.table)
  | none =>
    match categoryClass? wanted with
    | some found => some found
    | none => (script? wanted).map fun script => .property script.table

/-- The class of the characters for which a property has a value. -/
def propertyValueClass? (name value : String) : Option CharClass :=
  let property := looseName name
  let wanted := looseName value
  if named property ["gc", "General_Category"] then categoryClass? wanted
  else if named property ["sc", "Script"] then
    (script? wanted).map fun script => .property script.table
  else if named property ["scx", "Script_Extensions"] then
    (script? wanted).map fun script => .property script.extendedTable
  else if named property ["age"] then ageClass? wanted
  else if named property ["gcb", "Grapheme_Cluster_Break"] then
    breakClass? BreakKind.graphemes wanted
  else if named property ["wb", "Word_Break"] then breakClass? BreakKind.words wanted
  else if named property ["sb", "Sentence_Break"] then breakClass? BreakKind.sentences wanted
  else none

end ToolDiscovery.Pattern
