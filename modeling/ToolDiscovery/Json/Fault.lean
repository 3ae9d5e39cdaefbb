import ToolDiscovery.Json.Printer
import ToolDiscovery.Text.Quoted

/-!
# What can be wrong with JSON input

A `Fault` is the first thing that is wrong with an input: a text that is no JSON, or a value that is
not of the expected shape. Faults of texts carry the position at which they were found; faults of
values that have already been read have none.
-/

namespace ToolDiscovery.Json

/-- A place in a text. -/
structure Position where
  /-- The line, counted from one. -/
  line : Nat
  /-- The number of bytes of that line up to the place. -/
  column : Nat
deriving DecidableEq, Repr, Inhabited

/-- The ways in which a text is no JSON. -/
inductive SyntaxFault where
  | endInList
  | endInObject
  | endInString
  | endInValue
  | expectedColon
  | expectedListCommaOrEnd
  | expectedObjectCommaOrEnd
  | expectedIdent
  | expectedValue
  | invalidEscape
  | invalidNumber
  | numberOutOfRange
  | loneSurrogate
  | endOfHexEscape
  | controlCharacter
  | keyMustBeString
  | trailingComma
  | trailingCharacters
  | recursionLimit
deriving DecidableEq, Repr

/-- The wording of a syntax fault. -/
def SyntaxFault.message : SyntaxFault → String
  | endInList => "EOF while parsing a list"
  | endInObject => "EOF while parsing an object"
  | endInString => "EOF while parsing a string"
  | endInValue => "EOF while parsing a value"
  | expectedColon => "expected `:`"
  | expectedListCommaOrEnd => "expected `,` or `]`"
  | expectedObjectCommaOrEnd => "expected `,` or `\x7d`"
  | expectedIdent => "expected ident"
  | expectedValue => "expected value"
  | invalidEscape => "invalid escape"
  | invalidNumber => "invalid number"
  | numberOutOfRange => "number out of range"
  | loneSurrogate => "lone leading surrogate in hex escape"
  | endOfHexEscape => "unexpected end of hex escape"
  | controlCharacter => "control character (\\u0000-\\u001F) found while parsing a string"
  | keyMustBeString => "key must be a string"
  | trailingComma => "trailing comma"
  | trailingCharacters => "trailing characters"
  | recursionLimit => "recursion limit exceeded"

/-- What was met where something else was expected. -/
inductive Found where
  | null
  | boolean (value : Bool)
  | integer (value : Int)
  | real (value : Float)
  | string (text : String)
  | sequence
  | map
  /-- The bare name of a variant. -/
  | unitVariant

/-- The wording for what was met. -/
def Found.describe : Found → String
  | null => "null"
  | boolean value => "boolean `" ++ (if value then "true" else "false") ++ "`"
  | integer value => "integer `" ++ .ofList (integerChars value) ++ "`"
  | real value => "floating point `" ++ numberStyle.render value ++ "`"
  | string text => "string " ++ Text.quoted text
  | sequence => "sequence"
  | map => "map"
  | unitVariant => "unit variant"

/-- What a value is met as. -/
def Found.ofJson : Json → Found
  | .null => .null
  | .boolean value => .boolean value
  | .integer value => .integer value
  | .real value => .real value
  | .string text => .string text
  | .array _ => .sequence
  | .object _ => .map

/-- The causes of a fault. -/
inductive Cause where
  /-- The text is no JSON. -/
  | malformed (fault : SyntaxFault)
  /-- A value has the wrong type. -/
  | wrongType (found : Found) (expected : String)
  /-- A value has the right type but lies outside of what is allowed. -/
  | wrongValue (found : Found) (expected : String)
  /-- A list or record has too few or too many parts. -/
  | wrongLength (length : Nat) (expected : String)
  /-- A name is not among the variants. -/
  | unknownVariant (name : String) (variants : List String)
  /-- A record lacks a field. -/
  | missingField (name : String)
  /-- A record has a field twice. -/
  | duplicateField (name : String)

/-- The variants that would have been allowed. -/
def describeVariants (variants : List String) : String :=
  match variants.map fun v => "`" ++ v ++ "`" with
  | [] => "there are no variants"
  | [v] => "expected " ++ v
  | [v, w] => "expected " ++ v ++ " or " ++ w
  | many => "expected one of " ++ ", ".intercalate many

/-- The wording of a cause. -/
def Cause.message : Cause → String
  | malformed fault => fault.message
  | wrongType found expected => "invalid type: " ++ found.describe ++ ", expected " ++ expected
  | wrongValue found expected => "invalid value: " ++ found.describe ++ ", expected " ++ expected
  | wrongLength length expected => "invalid length " ++ toString length ++ ", expected " ++ expected
  | unknownVariant name variants =>
    "unknown variant `" ++ name ++ "`, " ++ describeVariants variants
  | missingField name => "missing field `" ++ name ++ "`"
  | duplicateField name => "duplicate field `" ++ name ++ "`"

/-- What is wrong with an input, and where. -/
structure Fault where
  /-- What is wrong. -/
  cause : Cause
  /-- Where it was found, if that is known. -/
  position? : Option Position := none

/-- The wording of a fault. -/
def Fault.message (fault : Fault) : String :=
  match fault.position? with
  | none => fault.cause.message
  | some p =>
    fault.cause.message ++ " at line " ++ toString p.line ++ " column " ++ toString p.column

/-- Gives a fault a position, unless it has one. -/
def Fault.located (fault : Fault) (position : Position) : Fault :=
  { fault with position? := some (fault.position?.getD position) }

end ToolDiscovery.Json
