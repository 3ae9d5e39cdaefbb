import ToolDiscovery.Schema.Number
import ToolDiscovery.Schema.TextPattern

/-!
# What schemas demand of a value itself

An `Assertion` is a demand on a value that does not look into its parts with further schemas. A
value of a type that an assertion does not speak about satisfies it.
-/

namespace ToolDiscovery.Schema

/-- The types of JSON values. -/
inductive JsonType where
  | array
  | boolean
  | integer
  | null
  | number
  | object
  | string
deriving DecidableEq, Repr

namespace JsonType

/-- All types, in ascending order of their names. -/
def all : List JsonType := [array, boolean, integer, null, number, object, string]

/-- The name of a type. -/
def name : JsonType → String
  | array => "array"
  | boolean => "boolean"
  | integer => "integer"
  | null => "null"
  | number => "number"
  | object => "object"
  | string => "string"

/-- The type of a name. -/
def ofName? (name : String) : Option JsonType := all.find? (·.name == name)

/-- Whether a value is of a type. A floating-point number without a fraction is an integer too,
unless integers have to be written as such. -/
def admits (asWritten : Bool) : JsonType → Json → Bool
  | array, .array _ => true
  | boolean, .boolean _ => true
  | integer, .integer _ => true
  | integer, .real x => !asWritten && (Ratio.ofFloat? x).any (·.isWhole)
  | null, .null => true
  | number, .integer _ | number, .real _ => true
  | object, .object _ => true
  | string, .string _ => true
  | _, _ => false

end JsonType

/-- How a number is compared with a limit. -/
inductive Bound where
  | minimum
  | maximum
  | exclusiveMinimum
  | exclusiveMaximum
deriving DecidableEq, Repr

/-- Whether a number keeps to a limit. -/
def Bound.admits (bound : Bound) (limit value : Ratio) : Bool :=
  match bound with
  | minimum => !value.less limit
  | maximum => !limit.less value
  | exclusiveMinimum => limit.less value
  | exclusiveMaximum => value.less limit

/-- The wording for a number that does not keep to a limit. -/
def Bound.complaint : Bound → String
  | minimum => " is less than the minimum of "
  | maximum => " is greater than the maximum of "
  | exclusiveMinimum => " is less than or equal to the minimum of "
  | exclusiveMaximum => " is greater than or equal to the maximum of "

/-- What is counted in a value. -/
inductive Measure where
  | characters
  | items
  | properties
deriving DecidableEq, Repr

/-- How many there are in a value, if they can be counted in it. -/
def Measure.count? : Measure → Json → Option Nat
  | characters, .string text => some text.length
  | items, .array list => some list.length
  | properties, .object members => some members.length
  | _, _ => none

/-- The word for as many as a number says. -/
def Measure.noun (measure : Measure) (number : Nat) : String :=
  match measure with
  | characters => if number = 1 then "character" else "characters"
  | items => if number = 1 then "item" else "items"
  | properties => if number = 1 then "property" else "properties"

/-- The wording for too few or too many. -/
def Measure.complaint (measure : Measure) ( tooFew : Bool) : String :=
  match measure with
  | characters => if tooFew then " is shorter than " else " is longer than "
  | items | properties => if tooFew then " has less than " else " has more than "

/-- A demand on a value itself. -/
inductive Assertion where
  /-- To be of one of several types. It may be that integers have to be written as such. -/
  | type (types : List JsonType) (asWritten : Bool)
  /-- To be equal to a value. -/
  | const (expected : Json)
  /-- To be equal to one of several values. -/
  | oneOf (options : List Json)
  /-- To keep to a limit. -/
  | bound (kind : Bound) (limit : Json)
  /-- To be a whole multiple of a number. -/
  | multipleOf (step : Json)
  /-- To have at least as many as a number says. -/
  | atLeast (measure : Measure) (number : Nat)
  /-- To have at most as many as a number says. -/
  | atMost (measure : Measure) (number : Nat)
  /-- To have a property. -/
  | required (name : String)
  /-- To have a part that matches a pattern. -/
  | pattern (pattern : TextPattern)
  /-- To have no two equal items. -/
  | distinctItems

namespace Assertion

/-- Whether a value satisfies an assertion. -/
def holds (value : Json) : Assertion → Bool
  | type types asWritten => types.any (·.admits asWritten value)
  | const expected => expected.equal value
  | oneOf options => options.any (·.equal value)
  | bound kind limit =>
    match Ratio.ofJson? limit, Ratio.ofJson? value with
    | some limit, some value => kind.admits limit value
    | _, _ => true
  | multipleOf step => value.isMultipleOf step
  | atLeast measure number => (measure.count? value).all (number ≤ ·)
  | atMost measure number => (measure.count? value).all (· ≤ number)
  | required name =>
    match value with
    | .object members => (members.lookup name).isSome
    | _ => true
  | pattern wanted =>
    match value with
    | .string text => wanted.expr.occursIn text.toList
    | _ => true
  | distinctItems =>
    match value with
    | .array items => Json.allDistinct items
    | _ => true

/-- The wording of several options, of which at most three are named. -/
def describeOptions (options : List Json) : String :=
  match options.map Json.compact with
  | [] => ""
  | [a] => a
  | [a, b] => a ++ " or " ++ b
  | [a, b, c] => a ++ ", " ++ b ++ " or " ++ c
  | a :: b :: more => a ++ ", " ++ b ++ " or " ++ toString more.length ++ " other candidates"

/-- The wording of a step. -/
def describeStep (step : Json) : String :=
  match step.nearestReal? with
  | some x => Decimal.plain.render x
  | none => step.compact

/-- A type between quotes. -/
def quotedType (type : JsonType) : String := "\"" ++ type.name ++ "\""

/-- The wording of the types that are allowed. -/
def describeTypes (types : List JsonType) : String :=
  match types with
  | [single] => " is not of type " ++ quotedType single
  | _ => " is not of types " ++ ", ".intercalate (types.map quotedType)

/-- The complaint about a value that does not satisfy an assertion. -/
def complaint (value : Json) : Assertion → String
  | type types _ => value.compact ++ describeTypes types
  | const expected => expected.compact ++ " was expected"
  | oneOf options => value.compact ++ " is not one of " ++ describeOptions options
  | bound kind limit => value.compact ++ kind.complaint ++ limit.compact
  | multipleOf step => value.compact ++ " is not a multiple of " ++ describeStep step
  | atLeast measure number =>
    value.compact ++ measure.complaint true ++ toString number ++ " " ++ measure.noun number
  | atMost measure number =>
    value.compact ++ measure.complaint false ++ toString number ++ " " ++ measure.noun number
  | required name => (Json.string name).compact ++ " is a required property"
  | pattern wanted => value.compact ++ " does not match \"" ++ wanted.text ++ "\""
  | distinctItems => value.compact ++ " has non-unique elements"

end Assertion

end ToolDiscovery.Schema
