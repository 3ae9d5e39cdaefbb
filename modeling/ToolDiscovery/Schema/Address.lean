import ToolDiscovery.Text.RangeTable
import ToolDiscovery.Text.Split

/-!
# Addresses

Schemas name themselves and each other by addresses. `Address.parse?` takes an address, or one that
is relative to another one, apart; what has characters where they may not stand is no address.
`Address.resolve` makes an address relative to a base absolute.
-/

namespace ToolDiscovery

/-- An address, which may be relative. -/
structure Address where
  /-- What stands before the first colon. -/
  scheme? : Option String := none
  /-- What stands after two slashes. -/
  authority? : Option String := none
  /-- The path. -/
  path : String := ""
  /-- What stands after a question mark. -/
  query? : Option String := none
  /-- What stands after a number sign. -/
  fragment? : Option String := none
deriving DecidableEq, Repr

namespace Address

/-! ## Characters -/

/-- Whether a character is a hexadecimal digit. -/
def isHexDigit (c : Char) : Bool := (RangeTable.hexDigit? c).isSome

/-- Whether a character may stand in all parts of an address but its scheme. -/
def isPlain (c : Char) : Bool := c.isAlphanum || "-._~!$&'()*+,;=".toList.contains c

/-- Whether a character may stand in a path. -/
def isPathChar (c : Char) : Bool := isPlain c || c == ':' || c == '@' || c == '/'

/-- Whether a character may stand in a query or a fragment. -/
def isQueryChar (c : Char) : Bool := isPathChar c || c == '?'

/-- Whether all characters are allowed or stand as percent signs with two hexadecimal digits. -/
def isEncoded (allowed : Char → Bool) : List Char → Bool
  | [] => true
  | '%' :: a :: b :: rest => isHexDigit a && isHexDigit b && isEncoded allowed rest
  | c :: rest => allowed c && isEncoded allowed rest

/-- Whether a text is a scheme. -/
def isScheme : List Char → Bool
  | [] => false
  | c :: rest =>
    c.isAlpha && rest.all fun c => c.isAlphanum || c == '+' || c == '-' || c == '.'

/-- What stands before and after the first occurrence of a character. -/
def cut (mark : Char) (text : List Char) : List Char × Option (List Char) :=
  match text.dropWhile (· ≠ mark) with
  | [] => (text, none)
  | _ :: after => (text.takeWhile (· ≠ mark), some after)

/-- Whether a text is a host and a port. Numbers of hosts may stand in brackets. -/
def isHost (text : List Char) : Bool :=
  match text with
  | '[' :: rest =>
    match cut ']' rest with
    | (number, some after) =>
      number.all (fun c => isHexDigit c || c == ':' || c == '.') && isPort after
    | (_, none) => false
  | _ => isEncoded isPlain (text.takeWhile (· ≠ ':')) && isPort (text.dropWhile (· ≠ ':'))
where
  /-- Whether a text is a colon and a number, or nothing. -/
  isPort : List Char → Bool
    | [] => true
    | c :: digits => c == ':' && digits.all Char.isDigit

/-- Whether a text is an authority: a host, before which a user may be named. -/
def isAuthority (text : List Char) : Bool :=
  match cut '@' text with
  | (user, some host) => isEncoded (fun c => isPlain c || c == ':') user && isHost host
  | (host, none) => isHost host

/-! ## Reading and writing -/

/-- Takes an address apart. -/
def parse? (text : String) : Option Address := do
  let (text, fragment?) := cut '#' text.toList
  let (text, query?) := cut '?' text
  let first := text.takeWhile fun c => c ≠ ':' ∧ c ≠ '/'
  let (scheme?, text) ←
    match text.drop first.length with
    | ':' :: rest => if isScheme first then some (some first, rest) else none
    | _ => some (none, text)
  let (authority?, path) :=
    match text with
    | '/' :: '/' :: rest =>
      (some (rest.takeWhile (· ≠ '/')), rest.dropWhile (· ≠ '/'))
    | _ => (none, text)
  let isFine := authority?.all isAuthority && isEncoded isPathChar path &&
    query?.all (isEncoded isQueryChar) && fragment?.all (isEncoded isQueryChar)
  if isFine then
    return {
      scheme? := scheme?.map fun scheme => .ofList (scheme.map Char.toLower)
      authority? := authority?.map fun authority => .ofList (authority.map Char.toLower)
      path := .ofList path
      query? := query?.map .ofList
      fragment? := fragment?.map .ofList }
  else none

/-- The written form of an address without its fragment. -/
def text (address : Address) : String :=
  (address.scheme?.map (· ++ ":")).getD "" ++ (address.authority?.map ("//" ++ ·)).getD "" ++
    address.path ++ (address.query?.map ("?" ++ ·)).getD ""

/-! ## Relative addresses -/

/-- The parts of a path between slashes, after those that have been kept, the last one first.
A single dot stands for nothing, and two dots take the part before away. -/
def keepParts : (kept : List (List Char)) → List (List Char) → List (List Char)
  | kept, [] => kept
  | kept, part :: rest =>
    let isLast := rest.isEmpty
    if part = ['.'] then keepParts (if isLast then [] :: kept else kept) rest
    else if part = ['.', '.'] then
      keepParts (if isLast then [] :: kept.tail else kept.tail) rest
    else keepParts (part :: kept) rest

/-- A path without parts of dots. -/
def withoutDots (path : List Char) : List Char :=
  match path with
  | '/' :: rest => '/' :: ['/'].intercalate (keepParts [] (Text.splitAt '/' rest)).reverse
  | _ => ['/'].intercalate (keepParts [] (Text.splitAt '/' path)).reverse

/-- A path relative to that of a base, from the last slash of the base on. -/
def joinPaths (base : Address) (path : String) : List Char :=
  if base.authority?.isSome ∧ base.path.isEmpty then '/' :: path.toList
  else (base.path.toList.reverse.dropWhile (· ≠ '/')).reverse ++ path.toList

/-- Makes an address absolute that is relative to a base. -/
def resolve (base relative : Address) : Address :=
  let path := relative.path.toList
  if relative.scheme?.isSome then { relative with path := .ofList (withoutDots path) }
  else if relative.authority?.isSome then
    { relative with scheme? := base.scheme?, path := .ofList (withoutDots path) }
  else if path.isEmpty then
    { base with
      query? := relative.query?.or base.query?
      fragment? := relative.fragment? }
  else
    let joined := if path.head? = some '/' then path else joinPaths base relative.path
    { relative with
      scheme? := base.scheme?
      authority? := base.authority?
      path := .ofList (withoutDots joined) }

end Address

end ToolDiscovery
