import ToolDiscovery.Schema.Assertion

/-!
# Schemas

A `Schema` says which values are allowed. `Schema.violations` lists all that is wrong with a value,
each with its place in the value. Schemas may refer to other ones by their places in a document,
also to themselves; what stands there is given, so that checking follows the structure of the
schema.
-/

namespace ToolDiscovery

open Schema (Assertion)

/-- The keys and indices that lead to a part of a JSON value. -/
abbrev Path := List String

/-- Which values are allowed. -/
inductive Schema where
  /-- All values, or none. -/
  | constant (allowed : Bool)
  /-- The values that satisfy an assertion. -/
  | assertion (demand : Assertion)
  /-- The values that satisfy all schemas of a list. -/
  | all (schemas : List Schema)
  /-- The values each of whose properties is allowed by the schema of its name or, if there is none,
  by the other schema. -/
  | properties (named : List (String × Schema)) (other : Schema)
  /-- The values without properties but the known ones. Where no properties are known, the first
  one is complained about by its value. -/
  | noOtherProperties (known? : Option (List String))
  /-- The values whose items are all allowed. -/
  | items (schema : Schema)
  /-- The values whose first items are allowed, each by a schema of its own. -/
  | firstItems (schemas : List Schema)
  /-- The values that satisfy at least one schema of a list. -/
  | anyOf (schemas : List Schema)
  /-- The values that satisfy exactly one schema of a list. -/
  | oneOf (schemas : List Schema)
  /-- The values that do not satisfy a schema, which is written as given. -/
  | not (source : Json) (schema : Schema)
  /-- The values that satisfy the schema at a place of the document. -/
  | reference (target : Path)

namespace Schema

/-- Something that is wrong with a part of a value. -/
structure Violation where
  /-- Where the part is. -/
  place : Path
  /-- What is wrong with it. -/
  complaint : String
deriving DecidableEq, Repr

/-- A key as a part of a JSON pointer. -/
def pointerPart (key : String) : List Char :=
  '/' :: key.toList.flatMap fun c =>
    if c = '~' then ['~', '0'] else if c = '/' then ['~', '1'] else [c]

/-- A violation with its place as a JSON pointer. -/
def Violation.message (violation : Violation) : String :=
  .ofList (violation.place.flatMap pointerPart) ++ ": " ++ violation.complaint

/-- What references stand for: a check of the value at a place. -/
abbrev References := (target : Path) → (place : Path) → Json → List Violation

/-- The members of an object whose names are not known. -/
def unknownMembers (known : List String) (members : Json.Members) : Json.Members :=
  members.filter fun member => !known.contains member.1

/-- The complaint that a value is not allowed at all. -/
def notAllowed (value : Json) : String := "False schema does not allow " ++ value.compact

/-- The complaint that a value satisfies none of the schemas under a keyword. -/
def noneOf (value : Json) (keyword : String) : String :=
  value.compact ++ " is not valid under any of the schemas listed in the '" ++ keyword ++
    "' keyword"

/-- The complaint that a value satisfies several of the schemas under a keyword. -/
def severalOf (value : Json) (keyword : String) : String :=
  value.compact ++ " is valid under more than one of the schemas listed in the '" ++ keyword ++
    "' keyword"

/-- The complaint about properties that nobody expects. -/
def unexpectedProperties (names : List String) : String :=
  let listed := ", ".intercalate (names.map fun name => "'" ++ name ++ "'")
  let verb := if names.length = 1 then " was" else " were"
  "Additional properties are not allowed (" ++ listed ++ verb ++ " unexpected)"

/-- The complaint about properties other than the known ones, if there are any. -/
def otherPropertiesComplaint? (known? : Option (List String)) (members : Json.Members) :
    Option String :=
  match known?, unknownMembers (known?.getD []) members with
  | _, [] => none
  | some _, unknown => some (unexpectedProperties (unknown.map (·.1)))
  | none, (_, value) :: _ => some (notAllowed value)

mutual

/-- All that is wrong with the value at a place. -/
def violations (references : References) (place : Path) (value : Json) :
    Schema → List Violation
  | constant allowed => if allowed then [] else [⟨place, notAllowed value⟩]
  | assertion demand => if demand.holds value then [] else [⟨place, demand.complaint value⟩]
  | all schemas => violationsOfAll references place value schemas
  | properties named other =>
    match value with
    | .object members => members.flatMap fun (name, part) =>
        match violationsByName? references (place ++ [name]) part name named with
        | some found => found
        | none => violations references (place ++ [name]) part other
    | _ => []
  | noOtherProperties known? =>
    match value with
    | .object members =>
      ((otherPropertiesComplaint? known? members).map fun text => ⟨place, text⟩).toList
    | _ => []
  | items schema =>
    match value with
    | .array list => list.zipIdx.flatMap fun (item, index) =>
        violations references (place ++ [toString index]) item schema
    | _ => []
  | firstItems schemas =>
    match value with
    | .array list => violationsOfItems references place 0 list schemas
    | _ => []
  | anyOf schemas =>
    if countSatisfied references place value schemas = 0 then [⟨place, noneOf value "anyOf"⟩]
    else []
  | oneOf schemas =>
    match countSatisfied references place value schemas with
    | 0 => [⟨place, noneOf value "oneOf"⟩]
    | 1 => []
    | _ => [⟨place, severalOf value "oneOf"⟩]
  | not source schema =>
    if (violations references place value schema).isEmpty then
      [⟨place, source.compact ++ " is not allowed for " ++ value.compact⟩]
    else []
  | reference target => references target place value

/-- All that is wrong with a value that has to satisfy several schemas. -/
def violationsOfAll (references : References) (place : Path) (value : Json) :
    List Schema → List Violation
  | [] => []
  | schema :: rest =>
    violations references place value schema ++ violationsOfAll references place value rest

/-- All that is wrong with a property by the schema of its name, if there is one. -/
def violationsByName? (references : References) (place : Path) (value : Json) (name : String) :
    List (String × Schema) → Option (List Violation)
  | [] => none
  | (known, schema) :: rest =>
    if known = name then some (violations references place value schema)
    else violationsByName? references place value name rest

/-- All that is wrong with the items of a list from an index on, each by a schema of its own. -/
def violationsOfItems (references : References) (place : Path) (index : Nat) (items : List Json) :
    List Schema → List Violation
  | [] => []
  | schema :: rest =>
    match items with
    | [] => []
    | item :: others =>
      violations references (place ++ [toString index]) item schema ++
        violationsOfItems references place (index + 1) others rest

/-- How many schemas a value satisfies. -/
def countSatisfied (references : References) (place : Path) (value : Json) :
    List Schema → Nat
  | [] => 0
  | schema :: rest =>
    (violations references place value schema).isEmpty.toNat +
      countSatisfied references place value rest

end

/-! ## References -/

mutual

/-- The places that a schema refers to. -/
def targets : Schema → List Path
  | all schemas | anyOf schemas | oneOf schemas | firstItems schemas => targetsOfAll schemas
  | properties named other => targetsOfNamed named ++ other.targets
  | items schema | not _ schema => schema.targets
  | reference target => [target]
  | _ => []

/-- The places that several schemas refer to. -/
def targetsOfAll : List Schema → List Path
  | [] => []
  | schema :: rest => schema.targets ++ targetsOfAll rest

/-- The places that schemas by name refer to. -/
def targetsOfNamed : List (String × Schema) → List Path
  | [] => []
  | (_, schema) :: rest => schema.targets ++ targetsOfNamed rest

end

end Schema

end ToolDiscovery
