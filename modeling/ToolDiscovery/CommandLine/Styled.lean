/-!
# Styled texts

Terminals take control sequences in a text for styles and other orders. A sequence begins with the
escape character, and what follows says what kind it is and where it ends. `Styled.plain` leaves out
all sequences, and all control characters but those that are white space.
-/

namespace ToolDiscovery.Styled

/-- The character that begins a sequence. -/
def escape : Char := '\x1b'

/-- Makes a text stand out. -/
def emphasize (text : String) : String :=
  escape.toString ++ "[1m" ++ text ++ escape.toString ++ "[0m"

/-- Where in a sequence a place is. -/
inductive Part where
  /-- Outside of all sequences. -/
  | text
  /-- After the escape character. -/
  | opening
  /-- In a short sequence, which ends with a digit, a letter or a sign above the digits. -/
  | short
  /-- In a sequence with parameters, which ends with a letter or a sign above the digits. -/
  | parameters
  /-- In the title of a window, which the bell ends. -/
  | title
  /-- At the start of a message to a device, before the letter that says which. -/
  | device
  /-- In a message that only a new sequence or a character by itself ends. -/
  | message
deriving DecidableEq, Repr

/-- Whether a character is white space although it is a control character. -/
def isBlankControl (c : Char) : Bool := c = '\t' ∨ c = '\n' ∨ c = '\x0c' ∨ c = '\r'

/-- Whether a basic Latin character is shown outside of sequences. -/
def isShown (c : Char) : Bool := isBlankControl c || (' ' ≤ c && c ≤ '~')

/-- Whether a blank control character is carried out at a place although a sequence goes on. -/
def Part.carriesOut : Part → Bool
  | text | opening | short | parameters => true
  | title | device | message => false

/-- Where the place after a basic Latin character is. -/
def Part.next (part : Part) (c : Char) : Part :=
  if c = escape then opening
  else if c = '\x18' ∨ c = '\x1a' then text
  else
    match part with
    | text => text
    | opening =>
      if c < ' ' ∨ c = '\x7f' then opening
      else if c < '0' then short
      else if c = '[' then parameters
      else if c = ']' then title
      else if c = 'P' then device
      else if c = 'X' ∨ c = '^' ∨ c = '_' then message
      else text
    | short => if '0' ≤ c ∧ c ≤ '~' then text else short
    | parameters => if '@' ≤ c ∧ c ≤ '~' then text else parameters
    | title => if c = '\x07' then text else title
    | device => if '@' ≤ c ∧ c ≤ '~' then message else device
    | message => message

/-- Whether a character ends a message: it has the byte `9C` in its encoded form. -/
def endsMessage (c : Char) : Bool := (String.utf8EncodeChar c).contains 0x9C

/-- Leaves out the sequences of a text, of which a part has been read. After a blank control
character inside of a sequence, text is shown as if the sequence were over; `shown` says so. It goes
on with the next control character. -/
def plainFrom : (shown : Bool) → Part → List Char → List Char
  | _, _, [] => []
  | shown, part, c :: rest =>
    if 128 ≤ c.toNat then
      if shown ∨ part = .text then c :: plainFrom true .text rest
      else plainFrom false (if part = .message && endsMessage c then .text else part) rest
    else if shown then
      if isShown c then c :: plainFrom true part rest
      else plainFrom false (part.next c) rest
    else if isBlankControl c then
      if part.carriesOut then c :: plainFrom true part rest else plainFrom false part rest
    else if part = .text ∧ isShown c then c :: plainFrom true .text rest
    else plainFrom false (part.next c) rest

/-- A text without its sequences. -/
def plain (text : String) : String := .ofList (plainFrom true .text text.toList)

end ToolDiscovery.Styled
