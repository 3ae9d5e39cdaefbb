import ToolDiscovery.Schema.Address
import ToolDiscovery.Schema.Assertion

/-!
# Editions

The schema language has several editions, which differ in what the members of a schema have to look
like. `Edition.shape?` says what the value of a member has to look like, and `Edition.accepts` says
whether a JSON value is a schema as far as looks are concerned.
-/

namespace ToolDiscovery.Schema

/-- The editions of the schema language. -/
inductive Edition where
  | draft4
  | draft6
  | draft7
  | draft2019
  | draft2020
deriving DecidableEq, Repr

namespace Edition

/-- The addresses of an edition without the number sign that may end them. -/
def address : Edition → String
  | draft4 => "http://json-schema.org/draft-04/schema"
  | draft6 => "http://json-schema.org/draft-06/schema"
  | draft7 => "http://json-schema.org/draft-07/schema"
  | draft2019 => "https://json-schema.org/draft/2019-09/schema"
  | draft2020 => "https://json-schema.org/draft/2020-12/schema"

/-- All editions. -/
def all : List Edition := [draft4, draft6, draft7, draft2019, draft2020]

/-- The edition of an address. -/
def ofAddress? (address : String) : Option Edition :=
  all.find? fun edition => address == edition.address || address == edition.address ++ "#"

/-- The edition of a schema, which is the latest one unless the schema says otherwise. -/
def ofJson? (json : Json) : Option Edition :=
  match json.member? "$schema" with
  | none => some draft2020
  | some (.string address) => ofAddress? address
  | some _ => none

/-- Whether an edition is one of the older ones. In these, a reference makes all members beside it
void, and anchors are written like identifiers. -/
def isOld : Edition → Bool
  | draft4 | draft6 | draft7 => true
  | draft2019 | draft2020 => false

/-- Whether a list of schemas may stand for the items one by one. -/
def hasItemLists (edition : Edition) : Bool := edition ≠ draft2020

end Edition

/-! ## Values of members -/

/-- The greatest number of parts that is counted. -/
def maxCount : Nat := 0xffffffffffffffff

/-- A whole number from zero on. It may have to be written as such. Numbers that are too large
count as the greatest one. -/
def count? (asWritten : Bool) (json : Json) : Option Nat := do
  let ratio ← Ratio.ofJson? json
  if JsonType.integer.admits asWritten json && 0 ≤ ratio.numerator then
    some (min (ratio.numerator / ratio.denominator).toNat maxCount)
  else none

/-- A number. -/
def number? (json : Json) : Option Json :=
  match json with
  | .integer _ | .real _ => some json
  | _ => none

/-- A number above zero. -/
def positive? (json : Json) : Option Json := do
  if 0 < (← Ratio.ofJson? json).numerator then some json else none

/-- A text. -/
def text? : Json → Option String
  | .string text => some text
  | _ => none

/-- A truth value. -/
def truth? : Json → Option Bool
  | .boolean value => some value
  | _ => none

/-- A list. -/
def list? : Json → Option (List Json)
  | .array list => some list
  | _ => none

/-- A list of different texts. -/
def names? (json : Json) : Option (List String) := do
  let names ← (← list? json).mapM text?
  if names.Nodup then some names else none

/-- One type, or a list of different ones. -/
def types? : Json → Option (List JsonType)
  | .string name => return [← JsonType.ofName? name]
  | json => do
    let types ← (← names? json).mapM JsonType.ofName?
    if types.isEmpty then none else some (JsonType.all.filter types.contains)

/-! ## Looks of members -/

/-- What the value of a member has to look like. -/
inductive Shape where
  | text
  | truth
  | list
  | number
  | positive
  | count
  | types
  /-- Different texts, perhaps at least one. -/
  | names (atLeastOne : Bool)
  /-- A text that can be read as a pattern. -/
  | pattern
  /-- A text that is an address. -/
  | address
  /-- A text with no number sign but at its end. -/
  | identifier
  /-- A text that names a place. -/
  | anchor
  /-- A schema. It may be that truth values are none. -/
  | schema
  /-- A schema or a truth value. -/
  | schemaOrTruth
  /-- A list of at least one schema. -/
  | schemas
  /-- A schema or a list of at least one. -/
  | schemaOrSchemas
  /-- Schemas by name. -/
  | namedSchemas
deriving DecidableEq

namespace Edition

/-- The members that have the same looks in all editions. -/
def commonShapes : List (String × Shape) := [
  ("$schema", .text), ("title", .text), ("description", .text), ("format", .text),
  ("type", .types), ("enum", .list), ("minimum", .number), ("maximum", .number),
  ("multipleOf", .positive), ("minLength", .count), ("maxLength", .count), ("minItems", .count),
  ("maxItems", .count), ("minProperties", .count), ("maxProperties", .count),
  ("uniqueItems", .truth), ("properties", .namedSchemas), ("definitions", .namedSchemas),
  ("allOf", .schemas), ("anyOf", .schemas), ("oneOf", .schemas), ("not", .schema)]

/-- The members that have other looks in an edition than in others, or are unknown to some. -/
def ownShapes : Edition → List (String × Shape)
  | draft4 => [
    ("id", .text), ("exclusiveMinimum", .truth), ("exclusiveMaximum", .truth),
    ("required", .names true), ("pattern", .pattern), ("additionalProperties", .schemaOrTruth),
    ("items", .schemaOrSchemas)]
  | draft6 => draft6Shapes
  | draft7 => draft6Shapes ++ [
    ("$comment", .text), ("readOnly", .truth), ("writeOnly", .truth), ("contentMediaType", .text),
    ("contentEncoding", .text)]
  | draft2019 => draft2019Shapes ++ [("items", .schemaOrSchemas)]
  | draft2020 => draft2019Shapes ++ [("items", .schema)]
where
  /-- The looks of members since edition 6. -/
  draft6Shapes : List (String × Shape) := [
    ("$id", .address), ("$ref", .address), ("examples", .list), ("exclusiveMinimum", .number),
    ("exclusiveMaximum", .number), ("required", .names false), ("pattern", .pattern),
    ("additionalProperties", .schema), ("items", .schemaOrSchemas)]
  /-- The looks of members since edition 2019. -/
  draft2019Shapes : List (String × Shape) := [
    ("$id", .identifier), ("$anchor", .anchor), ("$ref", .text), ("$comment", .text),
    ("examples", .list), ("deprecated", .truth), ("readOnly", .truth), ("writeOnly", .truth),
    ("contentMediaType", .text), ("contentEncoding", .text), ("exclusiveMinimum", .number),
    ("exclusiveMaximum", .number), ("required", .names false), ("pattern", .text),
    ("additionalProperties", .schema), ("$defs", .namedSchemas)]

/-- What the value of a member has to look like, if the edition knows the member. -/
def shape? (edition : Edition) (key : String) : Option Shape :=
  (commonShapes.lookup key).or (edition.ownShapes.lookup key)

/-- Whether a text names a place: it begins with a letter and goes on with letters, digits and some
signs. -/
def isAnchor (edition : Edition) (text : String) : Bool :=
  match text.toList with
  | [] => false
  | c :: rest =>
    let others := if edition = draft2019 then "-.:_" else "-._"
    (c.isAlpha || (c == '_' && edition == draft2020)) &&
      rest.all fun c => c.isAlphanum || others.toList.contains c

/-- Whether a value without schemas inside looks as it has to. -/
def fits (edition : Edition) (shape : Shape) (json : Json) : Bool :=
  match shape with
  | .text => (text? json).isSome
  | .truth => (truth? json).isSome
  | .list => (list? json).isSome
  | .number => (number? json).isSome
  | .positive => (positive? json).isSome
  | .count => (count? (edition == draft4) json).isSome
  | .types => (types? json).isSome
  | .names atLeastOne => (names? json).any fun names => !(atLeastOne && names.isEmpty)
  | .pattern => (text? json).any TextPattern.isReadable
  | .address => (text? json).any fun text => (Address.parse? text).isSome
  | .identifier => (text? json).any fun text => !(text.toList.dropLast.contains '#')
  | .anchor => (text? json).any edition.isAnchor
  | _ => false

/-- Whether what members need beside them is there: in edition 4, a limit cannot be excluded that is
not given. -/
def hasCompanions (edition : Edition) (members : Json.Members) : Bool :=
  let needs (key other : String) : Bool :=
    (members.lookup key).isNone || (members.lookup other).isSome
  edition ≠ draft4 || (needs "exclusiveMinimum" "minimum" && needs "exclusiveMaximum" "maximum")

mutual

/-- Whether a JSON value looks like a schema. -/
def accepts (edition : Edition) : Json → Bool
  | .boolean _ => edition ≠ draft4
  | .object members => edition.hasCompanions members && edition.acceptsMembers members
  | _ => false

/-- Whether the members of a schema look as they have to. -/
def acceptsMembers (edition : Edition) : List (String × Json) → Bool
  | [] => true
  | (key, value) :: rest =>
    (match edition.shape? key with
      | none => true
      | some .schema => edition.accepts value
      | some .schemaOrTruth => (truth? value).isSome || edition.accepts value
      | some .schemas => edition.acceptsList value
      | some .schemaOrSchemas =>
        if (list? value).isSome then edition.acceptsList value else edition.accepts value
      | some .namedSchemas => edition.acceptsNamed value
      | some shape => edition.fits shape value) &&
    edition.acceptsMembers rest

/-- Whether a value looks like a list of at least one schema. -/
def acceptsList (edition : Edition) : Json → Bool
  | .array list => !list.isEmpty && edition.acceptsAll list
  | _ => false

/-- Whether all values of a list look like schemas. -/
def acceptsAll (edition : Edition) : List Json → Bool
  | [] => true
  | json :: rest => edition.accepts json && edition.acceptsAll rest

/-- Whether a value looks like schemas by name. -/
def acceptsNamed (edition : Edition) : Json → Bool
  | .object members => edition.acceptsValues members
  | _ => false

/-- Whether the values of all members look like schemas. -/
def acceptsValues (edition : Edition) : List (String × Json) → Bool
  | [] => true
  | (_, json) :: rest => edition.accepts json && edition.acceptsValues rest

end

end Edition

end ToolDiscovery.Schema
