import ToolDiscovery.Schema.Basic
import ToolDiscovery.Schema.Edition

/-!
# Schema documents

A `Document` is a JSON value that looks like a schema, together with the places in it that can be
named by an address or an anchor. `Document.find?` follows a reference to a place.
-/

namespace ToolDiscovery.Schema

/-! ## Names of places -/

namespace Edition

/-- The key of the member by which a schema names itself. -/
def identifierKey (edition : Edition) : String := if edition = draft4 then "id" else "$id"

/-- The address that a schema gives itself. -/
def identifier? (edition : Edition) (members : Json.Members) : Option String := do
  let text ← text? (← members.lookup edition.identifierKey)
  if edition.isOld && ((members.lookup "$ref").isSome || text.startsWith "#") then none
  else some text

/-- The anchor that a schema gives itself. -/
def anchor? (edition : Edition) (members : Json.Members) : Option String := do
  if edition.isOld then
    match (← text? (← members.lookup edition.identifierKey)).toList with
    | '#' :: name => some (.ofList name)
    | _ => none
  else text? (← members.lookup "$anchor")

/-- The address to which the references in a schema are relative, given that for what is around
it. -/
def baseWithin? (edition : Edition) (base : Address) (members : Json.Members) : Option Address :=
  match edition.identifier? members with
  | none => some base
  | some text => return { base.resolve (← Address.parse? text) with fragment? := none }

end Edition

/-- A place that can be named. -/
structure Mark where
  /-- The address of the schema that the place belongs to. -/
  address : String
  /-- The anchor of the place, unless the address is its own. -/
  anchor? : Option String
  /-- Where the place is. -/
  path : Path
deriving Repr

mutual

/-- The places in a schema that can be named. There are none if the schema gives itself what is no
address. -/
def marks? (edition : Edition) (base : Address) (path : Path) : Json → Option (List Mark)
  | .object members => do
    let own ← edition.baseWithin? base members
    let inner ← marksOfMembers? edition own path members
    let named := (edition.identifier? members).toList.map fun _ => ⟨own.text, none, path⟩
    let anchored := (edition.anchor? members).toList.map fun name => ⟨own.text, some name, path⟩
    return named ++ anchored ++ inner
  | _ => some []

/-- The places in the members of a schema that can be named. -/
def marksOfMembers? (edition : Edition) (base : Address) (path : Path) :
    List (String × Json) → Option (List Mark)
  | [] => some []
  | (key, value) :: rest => do
    let found ← match edition.shape? key with
      | some .schema | some .schemaOrTruth => marks? edition base (path ++ [key]) value
      | some .schemas => marksOfList? edition base (path ++ [key]) value
      | some .schemaOrSchemas =>
        if (list? value).isSome then marksOfList? edition base (path ++ [key]) value
        else marks? edition base (path ++ [key]) value
      | some .namedSchemas => marksOfNamed? edition base (path ++ [key]) value
      | _ => some []
    return found ++ (← marksOfMembers? edition base path rest)

/-- The places in a list of schemas that can be named. -/
def marksOfList? (edition : Edition) (base : Address) (path : Path) : Json → Option (List Mark)
  | .array list => marksOfItems? edition base path 0 list
  | _ => some []

/-- The places in the schemas of a list from an index on that can be named. -/
def marksOfItems? (edition : Edition) (base : Address) (path : Path) (index : Nat) :
    List Json → Option (List Mark)
  | [] => some []
  | json :: rest => do
    let found ← marks? edition base (path ++ [toString index]) json
    return found ++ (← marksOfItems? edition base path (index + 1) rest)

/-- The places in schemas by name that can be named. -/
def marksOfNamed? (edition : Edition) (base : Address) (path : Path) : Json → Option (List Mark)
  | .object members => marksOfValues? edition base path members
  | _ => some []

/-- The places in the values of all members that can be named. -/
def marksOfValues? (edition : Edition) (base : Address) (path : Path) :
    List (String × Json) → Option (List Mark)
  | [] => some []
  | (key, json) :: rest => do
    let found ← marks? edition base (path ++ [key]) json
    return found ++ (← marksOfValues? edition base path rest)

end

/-! ## Documents -/

/-- A JSON value that looks like a schema. -/
structure Document where
  /-- The edition that it follows. -/
  edition : Edition
  /-- The value. -/
  root : Json
  /-- The places in it that can be named. -/
  marks : List Mark

/-- The address of a schema that does not give itself one. -/
def defaultAddress : Address where
  scheme? := some "json-schema"
  authority? := some ""
  path := "/"

namespace Document

/-- The document of a JSON value. -/
def ofJson? (json : Json) : Option Document := do
  let edition ← Edition.ofJson? json
  if edition.accepts json then
    let inner ← marks? edition defaultAddress [] json
    return { edition, root := json, marks := inner ++ [⟨defaultAddress.text, none, []⟩] }
  else none

/-- The index that digits stand for. -/
def index? (text : List Char) : Option Nat :=
  let digits := if text.head? = some '+' then text.tail else text
  if digits.isEmpty || !digits.all Json.isDigit then none
  else some (digits.foldl (fun n c => n * 10 + Json.digitValue c) 0)

/-- The part of a value under a key or an index. The key is given in its usual form, too. -/
def child? (json : Json) (key : List Char) : Option (String × Json) :=
  match json with
  | .object members => return (.ofList key, ← members.lookup (.ofList key))
  | .array list => do
    let index ← index? key
    return (toString index, ← list[index]?)
  | _ => none

/-- The part of a value at a place. -/
def partAt? (json : Json) : Path → Option Json
  | [] => some json
  | key :: rest => do partAt? (← child? json key.toList).2 rest

/-- Where keys lead in a value. -/
def trace? (json : Json) : (keys : List (List Char)) → Option Path
  | [] => some []
  | key :: rest => do
    let (name, part) ← child? json key
    return name :: (← trace? part rest)

/-- The base of references at a place of a value, given that for the value. -/
def baseAt? (edition : Edition) (base : Address) (json : Json) : Path → Option Address
  | [] => some base
  | key :: rest => do
    let own ← match json with
      | .object members => edition.baseWithin? base members
      | _ => some base
    baseAt? edition own (← child? json key.toList).2 rest

/-! ## Following references -/

/-- Puts bytes in the place of percent signs with two hexadecimal digits. -/
def decodedBytes : List Char → List UInt8
  | '%' :: a :: b :: rest =>
    .ofNat ((RangeTable.hexDigit? a).getD 0 * 16 + (RangeTable.hexDigit? b).getD 0) ::
      decodedBytes rest
  | c :: rest => String.utf8EncodeChar c ++ decodedBytes rest
  | [] => []

/-- A part of a JSON pointer as a key. -/
def unescapePart : List Char → List Char
  | '~' :: '0' :: rest => '~' :: unescapePart rest
  | '~' :: '1' :: rest => '/' :: unescapePart rest
  | '~' :: c :: rest => '~' :: c :: unescapePart rest
  | c :: rest => c :: unescapePart rest
  | [] => []

/-- Where a JSON pointer leads in a value. -/
def follow? (json : Json) (pointer : String) : Option Path := do
  let decoded ← String.fromUTF8? ⟨(decodedBytes pointer.toList).toArray⟩
  trace? json ((Text.splitAt '/' decoded.toList).tail.map unescapePart)

/-- The place of an anchor or, if none is given, of the schema with an address. -/
def markAt? (document : Document) (address : String) (anchor? : Option String) : Option Path :=
  (document.marks.find? fun mark => mark.address == address && mark.anchor? == anchor?).map (·.path)

/-- The place that a reference leads to. -/
def find? (document : Document) (base : Address) (reference : String) : Option Path := do
  let relative ← Address.parse? reference
  let address := (base.resolve relative).text
  let fragment := relative.fragment?.getD ""
  if fragment.isEmpty then document.markAt? address none
  else if fragment.startsWith "/" then
    let start ← document.markAt? address none
    return start ++ (← follow? (← partAt? document.root start) fragment)
  else document.markAt? address (some fragment)

end Document

end ToolDiscovery.Schema
