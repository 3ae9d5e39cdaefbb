import ToolDiscovery.Schema.Document

/-!
# Reading schemas

A schema in JSON is a truth value or an object, each member of which makes a demand. The demands are
kept in a fixed order, whatever the order of the members. `Schemas.ofJson?` reads the schema of a
document and all schemas that it refers to. What is no schema gives nothing: a member with a value
that it may not have, a pattern that cannot be read, or a reference to nothing.
-/

namespace ToolDiscovery.Schema

/-- The value of a member that may be missing. -/
def optional? {α : Type} (members : Json.Members) (key : String) (read? : Json → Option α) :
    Option (Option α) :=
  match members.lookup key with
  | none => some none
  | some json => (read? json).map some

/-- The value of a member that may be missing, as a list. -/
def part? {α : Type} (members : Json.Members) (key : String) (read? : Json → Option (List α)) :
    Option (List α) :=
  (optional? members key read?).map (·.getD [])

/-! ## Demands on a value itself -/

/-- A pattern. -/
def pattern? (json : Json) : Option Assertion :=
  return .pattern (← TextPattern.parse? (← text? json))

/-- A limit that may be reached unless the member with the given key excludes it. Since edition 6,
there are members of their own for limits that may not be reached. -/
def limit? (edition : Edition) (members : Json.Members) (key : String) (inclusive exclusive : Bound)
    (json : Json) : Option (List Assertion) := do
  let limit ← number? json
  let excluded? := (members.lookup key).bind truth?
  let isExcluded := edition = .draft4 && excluded?.getD false
  return [.bound (if isExcluded then exclusive else inclusive) limit]

/-- A limit that may not be reached. -/
def strictLimit? (edition : Edition) (bound : Bound) (json : Json) : Option (List Assertion) :=
  if edition = .draft4 then some [] else return [.bound bound (← number? json)]

/-- A demand on how many there are. -/
def measured? (edition : Edition) (demand : Nat → Assertion) (json : Json) :
    Option (List Assertion) :=
  return [demand (← count? (edition == .draft4) json)]

/-- How the members are read that make demands on a value itself, in the order of the demands. -/
def assertionReaders (edition : Edition) (members : Json.Members) :
    List (String × (Json → Option (List Assertion))) :=
  [("type", fun json => return [.type (← types? json) (edition == .draft4)]),
    ("const", fun json => some (if edition = .draft4 then [] else [.const json])),
    ("enum", fun json => return [.oneOf (← list? json)]),
    ("minimum", limit? edition members "exclusiveMinimum" .minimum .exclusiveMinimum),
    ("maximum", limit? edition members "exclusiveMaximum" .maximum .exclusiveMaximum),
    ("exclusiveMinimum", strictLimit? edition .exclusiveMinimum),
    ("exclusiveMaximum", strictLimit? edition .exclusiveMaximum),
    ("multipleOf", fun json => return [.multipleOf (← positive? json)]),
    ("minLength", measured? edition (.atLeast .characters)),
    ("maxLength", measured? edition (.atMost .characters)),
    ("minItems", measured? edition (.atLeast .items)),
    ("maxItems", measured? edition (.atMost .items)),
    ("minProperties", measured? edition (.atLeast .properties)),
    ("maxProperties", measured? edition (.atMost .properties))]

/-- How the members are read that make demands on a value itself and come after the demand to have
certain properties. -/
def laterReaders : List (String × (Json → Option (List Assertion))) :=
  [("pattern", fun json => return [← pattern? json]),
    ("uniqueItems", fun json => return if ← truth? json then [.distinctItems] else [])]

/-- The demands that members make on a value itself. -/
def assertions? (readers : List (String × (Json → Option (List Assertion))))
    (members : Json.Members) : Option (List Schema) := do
  let found ← readers.mapM fun (key, read?) => part? members key read?
  return found.flatten.map .assertion

/-! ## Demands on properties -/

/-- What a schema says about properties. -/
structure PropertyDemands where
  /-- The names of properties that there must be. -/
  required : List String
  /-- The schemas of properties by name, if they are given. -/
  named? : Option (List (String × Schema))
  /-- What all other properties have to be like, if it is given. -/
  other? : Option Schema

/-- The number of names from which on properties are looked up in another way. -/
def manyNames : Nat := 15

namespace PropertyDemands

/-- Whether all other properties are forbidden beside properties that are named. -/
def isClosed (demands : PropertyDemands) : Bool :=
  demands.named?.isSome && demands.other? matches some (.constant false)

/-- Whether the names of required properties do not count: there are two of them, and the named
properties are looked up in another way or others have a schema. -/
def isLenient (demands : PropertyDemands) : Bool :=
  match demands.named?, demands.other? with
  | some named, none | some named, some (.constant true) =>
    demands.required.length = 2 && manyNames ≤ named.length
  | some _, some (.constant false) => false
  | some _, some _ => demands.required.length = 2
  | none, _ => false

/-- Whether the names of required properties are looked at last: there is one of them, and the
properties are closed. -/
def isLate (demands : PropertyDemands) : Bool :=
  demands.isClosed && demands.required.length = 1

/-- The demand to have the required properties. -/
def needed (demands : PropertyDemands) : List Schema :=
  demands.required.map fun name => .assertion (.required name)

/-- The demands to have properties, where these come before other demands. -/
def early (demands : PropertyDemands) : List Schema :=
  if demands.isLenient || demands.isLate then [] else demands.needed

/-- The demands on the properties that there are. -/
def main (demands : PropertyDemands) : List Schema :=
  match demands.named?, demands.other? with
  | none, none => []
  | named?, some (.constant false) =>
    (named?.toList.map fun named => .properties named (.constant true)) ++
      [.noOtherProperties (named?.map fun named => named.map (·.1))]
  | named?, other? => [.properties (named?.getD []) (other?.getD (.constant true))]

/-- The demands to have properties, where these come after the demands on properties. -/
def late (demands : PropertyDemands) : List Schema := if demands.isLate then demands.needed else []

end PropertyDemands

/-! ## Schemas -/

/-- Schemas by name. -/
def named? (read? : Json → Option Schema) : Json → Option (List (String × Schema))
  | .object members => members.mapM fun (name, json) => return (name, ← read? json)
  | _ => none

/-- Several schemas, at least one. -/
def several? (read? : Json → Option Schema) (json : Json) : Option (List Schema) := do
  let schemas ← (← list? json).mapM read?
  if schemas.isEmpty then none else some schemas

/-- The demands on items. -/
def items? (edition : Edition) (read? : Json → Option Schema) : Json → Option (List Schema)
  | .array list => do
    if edition.hasItemLists then return [.firstItems (← list.mapM read?)] else none
  | json => return [.items (← read? json)]

/-- The names of required properties. -/
def required? (json : Json) : Option (List String) := do (← list? json).mapM text?

/-- A reference that leads somewhere. -/
def Document.reference? (document : Document) (base : Address) (json : Json) : Option Schema :=
  return .reference (← document.find? base (← text? json))

/-- A schema inside a schema. The depth is one more than that of the JSON value. -/
def Document.within? (document : Document) : (depth : Nat) → (base : Address) → Json → Option Schema
  | 0, _, _ => none
  | _, _, .boolean allowed => some (.constant allowed)
  | depth + 1, base, .object members => do
    let edition := document.edition
    let base ← edition.baseWithin? base members
    let read? := document.within? depth base
    let reference ← part? members "$ref" fun json => return [← document.reference? base json]
    if edition.isOld && !reference.isEmpty then return .all reference
    let first ← assertions? (assertionReaders edition members) members
    let demands : PropertyDemands := {
      required := ← part? members "required" required?
      named? := ← optional? members "properties" (named? read?)
      other? := ← optional? members "additionalProperties" read? }
    let later ← assertions? laterReaders members
    let items ← part? members "items" (items? edition read?)
    let allOf ← part? members "allOf" (several? read?)
    let anyOf ← part? members "anyOf" fun json => return [.anyOf (← several? read? json)]
    let oneOf ← part? members "oneOf" fun json => return [.oneOf (← several? read? json)]
    let excluded ← part? members "not" fun json => return [.not json (← read? json)]
    let onProperties := demands.main ++ demands.late
    return .all (first ++ demands.early ++ later ++ onProperties ++ items ++ allOf ++ anyOf ++
      oneOf ++ excluded ++ reference)
  | _, _, _ => none

mutual

/-- How deep brackets are nested in a value. -/
def depthOf : Json → Nat
  | .array list => depthOfItems list + 1
  | .object members => depthOfMembers members + 1
  | _ => 0

/-- How deep brackets are nested in the items of a list. -/
def depthOfItems : List Json → Nat
  | [] => 0
  | item :: rest => max (depthOf item) (depthOfItems rest)

/-- How deep brackets are nested in the members of an object. -/
def depthOfMembers : List (String × Json) → Nat
  | [] => 0
  | (_, value) :: rest => max (depthOf value) (depthOfMembers rest)

end

namespace Document

/-- The schema at a place of a document. -/
def schemaAt? (document : Document) (path : Path) : Option Schema := do
  let json ← partAt? document.root path
  let base ← baseAt? document.edition defaultAddress document.root path
  document.within? (depthOf json + 1) base json

/-- Reads the schemas at places, and those that they refer to, after those that have been read. Each
round reads one schema, and no place is read twice. -/
def schemasFrom? (document : Document) : (rounds : Nat) → (places : List Path) →
    (read : List (Path × Schema)) → Option (List (Path × Schema))
  | _, [], read => some read
  | 0, _ :: _, _ => none
  | rounds + 1, path :: rest, read => do
    let schema ← document.schemaAt? path
    let known := path :: rest ++ read.map (·.1)
    let fresh := schema.targets.eraseDups.filter (!known.contains ·)
    document.schemasFrom? rounds (rest ++ fresh) ((path, schema) :: read)

end Document

/-- The schemas that a schema refers to, by their places, and the schema itself at the root. -/
structure Schemas where
  /-- The schemas by their places. -/
  entries : List (Path × Schema)

namespace Schemas

/-- Reads the schema of a JSON value, and all that it refers to. There are no more places than
characters in the written form. -/
def ofJson? (json : Json) : Option Schemas := do
  let document ← Document.ofJson? json
  return ⟨← document.schemasFrom? (json.compactChars.length + 1) [[]] []⟩

/-! ## Checking -/

/-- Checks a value with the schema at a place. Where that schema is being checked for the same part
of the value already, nothing more is found; `opened` holds these schemas and parts. A chain of
references is followed up to the given length. -/
def follow (schemas : Schemas) : (length : Nat) → (opened : List (Path × Path)) → References
  | 0, _ => fun _ _ _ => []
  | length + 1, opened => fun target place value =>
    if opened.contains (target, place) then []
    else
      match schemas.entries.lookup target with
      | some schema =>
        schema.violations (schemas.follow length ((target, place) :: opened)) place value
      | none => []

/-- A length that no chain of references exceeds: in a chain, no schema is checked twice for the
same part of the value. -/
def chainLength (schemas : Schemas) (value : Json) : Nat :=
  (depthOf value + 1) * schemas.entries.length + 1

/-- All that is wrong with a value. -/
def violations (schemas : Schemas) (value : Json) : List Violation :=
  schemas.follow (schemas.chainLength value) [] [] [] value

end Schemas

/-- All that is wrong with a value by the schema that a JSON value stands for; nothing if it does
not stand for one. -/
def check (root value : Json) : List Violation :=
  match Schemas.ofJson? root with
  | some schemas => schemas.violations value
  | none => []

end ToolDiscovery.Schema
