import ToolDiscovery.CommandLine.Styled

/-!
# Options

The arguments of a program are options, commands and plain arguments. A `Level` says what is allowed
at one level of the command line; `Level.scan` reads the arguments of a level from left to right and
stops at a command. An option that waits for its value, or whose value has just been read, is
settled only when the next option starts, a plain argument follows, or the level ends: a fault in
its value is reported no sooner.
-/

namespace ToolDiscovery

/-- What is wrong with the arguments of the program. -/
inductive UsageFault where
  /-- An argument is not allowed where it stands. -/
  | unexpectedArgument (argument : String)
  /-- An option that has no value was given one. -/
  | unexpectedValue (value option : String)
  /-- An option has no value although it needs one. -/
  | valueRequired (option : String)
  /-- An option was given twice. -/
  | repeatedOption (option : String)
  /-- An option was given a value that it cannot have. -/
  | invalidValue (value option reason : String)
  /-- There is no such command. -/
  | unknownCommand (name : String)
  /-- A command has to be given. -/
  | commandRequired (program : String)
  /-- Arguments are missing. -/
  | argumentsRequired
  /-- Nothing was given at all, which is answered with what the program is for. -/
  | nothingGiven (about : String)
deriving DecidableEq, Repr

namespace UsageFault

/-- A text between quotes, where it stands out. -/
def quoted (text : String) : String := "'" ++ Styled.emphasize text ++ "'"

/-- The wording of a usage fault, with styles. -/
def message : UsageFault → String
  | unexpectedArgument argument => "error: unexpected argument " ++ quoted argument ++ " found"
  | unexpectedValue value option =>
    "error: unexpected value " ++ quoted value ++ " for " ++ quoted option ++
      " found; no more were expected"
  | valueRequired option =>
    "error: a value is required for " ++ quoted option ++ " but none was supplied"
  | repeatedOption option =>
    "error: the argument " ++ quoted option ++ " cannot be used multiple times"
  | invalidValue value option reason =>
    "error: invalid value " ++ quoted value ++ " for " ++ quoted option ++ ": " ++ reason
  | unknownCommand name => "error: unrecognized subcommand " ++ quoted name
  | commandRequired program =>
    "error: " ++ quoted program ++ " requires a subcommand but one was not provided"
  | argumentsRequired => "error: the following required arguments were not provided:"
  | nothingGiven about => about

end UsageFault

/-- What the program may be asked to tell about itself. -/
inductive Notice where
  /-- How it is used, or how one of its commands is. -/
  | help (command? : Option String)
  /-- Which program it is. -/
  | version
deriving DecidableEq, Repr

/-- Why the arguments of the program do not make it do its work. -/
inductive Halt where
  /-- Something is wrong with them. -/
  | fault (fault : UsageFault)
  /-- They ask for a notice. -/
  | notice (notice : Notice)
deriving DecidableEq, Repr

namespace CommandLine

/-- What an option takes. -/
inductive Taker (δ : Type) where
  /-- No value. -/
  | flag (set : δ → δ)
  /-- No value. A notice is wanted instead of all else. -/
  | notice (wanted : Notice)
  /-- A value, for which a word stands in messages. Some values have a fault. -/
  | value (word : String) (set : String → δ → Except (String → UsageFault) δ)

/-- An option that is noted in drafts of type `δ`. -/
structure CommandOption (δ : Type) where
  /-- The name without the two hyphens. -/
  name : String
  /-- The letter that stands for the option after a single hyphen, if there is one. -/
  letter? : Option Char := none
  /-- Whether a draft has the option. -/
  given : δ → Bool
  /-- What it takes. -/
  taker : Taker δ

/-- An option as it stands in messages. -/
def CommandOption.shown {δ : Type} (option : CommandOption δ) : String :=
  match option.taker with
  | .flag _ | .notice _ => "--" ++ option.name
  | .value word _ => "--" ++ option.name ++ " <" ++ word ++ ">"

/-- What is allowed at one level of the command line. -/
structure Level (δ : Type) where
  /-- The options. -/
  options : List (CommandOption δ)
  /-- The commands. -/
  commands : List String := []
  /-- Notes a plain argument, unless there are too many. -/
  plain? : String → δ → Option δ := fun _ _ => none

/-- The progress of reading a level. -/
structure Progress (δ : Type) where
  /-- What has been noted. -/
  draft : δ
  /-- The option that has not been settled, and its value if that has been read. -/
  pending? : Option (CommandOption δ × Option String) := none

namespace Level

variable {δ : Type}

/-- Notes an option with its value, if it has one. -/
def settle (option : CommandOption δ) (value? : Option String) (draft : δ) : Except Halt δ :=
  match option.taker, value? with
  | .value .., none => .error (.fault (.valueRequired option.shown))
  | .flag _, some value | .notice _, some value =>
    .error (.fault (.unexpectedValue value option.shown))
  | .notice wanted, none => .error (.notice wanted)
  | .flag set, none =>
    if option.given draft then .error (.fault (.repeatedOption option.shown)) else .ok (set draft)
  | .value _ set, some value =>
    if option.given draft then .error (.fault (.repeatedOption option.shown))
    else (set value draft).mapError fun fault => .fault (fault option.shown)

/-- Settles the option that has not been settled. -/
def settlePending (progress : Progress δ) : Except Halt δ :=
  match progress.pending? with
  | none => .ok progress.draft
  | some (option, value?) => settle option value? progress.draft

/-- The name of an option, and what follows the first equality sign after it. -/
def splitOption (text : String) : String × Option String :=
  let name := String.ofList (text.toList.takeWhile (· ≠ '='))
  match text.toList.dropWhile (· ≠ '=') with
  | [] => (name, none)
  | _ :: value => (name, some (.ofList value))

/-- Reads an option, from its name on. -/
def readOption (level : Level δ) (progress : Progress δ) (text : String) :
    Except Halt (Progress δ) := do
  let (name, value?) := splitOption text
  match level.options.find? (·.name == name) with
  | none => .error (.fault (.unexpectedArgument ("--" ++ name)))
  | some option =>
    match option.taker, value? with
    | .value .., none =>
      return { draft := ← settlePending progress, pending? := some (option, none) }
    | .flag _, some value | .notice _, some value =>
      .error (.fault (.unexpectedValue value option.shown))
    | _, _ => return { draft := ← settle option value? (← settlePending progress) }

/-- Reads an option of a single letter. -/
def readLetter (level : Level δ) (progress : Progress δ) (letter : Char) :
    Except Halt (Progress δ) := do
  match level.options.find? (·.letter? == some letter) with
  | none => .error (.fault (.unexpectedArgument ("-" ++ letter.toString)))
  | some option => return { draft := ← settle option none (← settlePending progress) }

/-- Reads an argument that is neither an option nor a command. -/
def readPlain (level : Level δ) (progress : Progress δ) (argument : String) (afterHyphens : Bool) :
    Except Halt (Progress δ) :=
  match level.plain? argument progress.draft with
  | some _ => do
    match level.plain? argument (← settlePending progress) with
    | some draft => return { draft }
    | none => .error (.fault (.unexpectedArgument argument))
  | none =>
    if level.commands.isEmpty || (afterHyphens && level.commands.contains argument) then
      .error (.fault (.unexpectedArgument argument))
    else .error (.fault (.unknownCommand argument))

/-- Whether an argument is an option of several letters. -/
def longOption? (argument : String) : Option String :=
  match argument.toList with
  | '-' :: '-' :: c :: rest => some (.ofList (c :: rest))
  | _ => none

/-- The first letter of an argument that is an option of single letters. -/
def shortOption? (argument : String) : Option Char :=
  match argument.toList with
  | '-' :: c :: _ => if c = '-' then none else some c
  | _ => none

/-- Reads the arguments of a level. Gives the progress so far and, if there is one, the command that
follows with its own arguments. After two hyphens all arguments are plain. -/
def scan (level : Level δ) : (afterHyphens : Bool) → Progress δ → List String →
    Except Halt (Progress δ × Option (String × List String))
  | _, progress, [] => .ok (progress, none)
  | true, progress, argument :: rest => do
    level.scan true (← level.readPlain progress argument true) rest
  | false, progress, argument :: rest => do
    let waiting? := progress.pending?.bind fun (option, value?) =>
      if value?.isNone then some option else none
    if waiting?.isNone && level.commands.contains argument then
      return (progress, some (argument, rest))
    if argument = "--" then level.scan true progress rest
    else
      match longOption? argument, shortOption? argument, waiting? with
      | some text, _, _ => level.scan false (← level.readOption progress text) rest
      | none, some letter, _ => level.scan false (← level.readLetter progress letter) rest
      | none, none, some option =>
        level.scan false { progress with pending? := some (option, some argument) } rest
      | none, none, none => level.scan false (← level.readPlain progress argument false) rest

end Level

/-! ## Values of options -/

/-- The value of a character as a decimal digit. -/
def digit? (c : Char) : Option Nat :=
  if c.isDigit then some (c.toNat - '0'.toNat) else none

/-- Reads the digits of a whole number up to `2 ^ 64 - 1` after those that make up `value`. -/
def readDigits (value : Nat) : List Char → Except String Nat
  | [] => .ok value
  | c :: rest =>
    match digit? c with
    | none => .error "invalid digit found in string"
    | some digit =>
      if 0xffffffffffffffff < value * 10 + digit then
        .error "number too large to fit in target type"
      else readDigits (value * 10 + digit) rest

/-- Reads a whole number, which may have a plus sign. -/
def readNumber (text : String) : Except String Nat :=
  match text.toList with
  | [] => .error "cannot parse integer from empty string"
  | ['+'] => .error "invalid digit found in string"
  | '+' :: digits => readDigits 0 digits
  | digits => readDigits 0 digits

/-- An option with a value that is read. -/
def CommandOption.reading {δ β : Type} (name word : String) (read : String → Except String β)
    (get : δ → Option β) (set : δ → β → δ) : CommandOption δ where
  name := name
  given draft := (get draft).isSome
  taker := .value word fun text draft =>
    match read text with
    | .ok value => .ok (set draft value)
    | .error reason => .error fun option => .invalidValue text option reason

/-- An option with the path of a file. -/
def CommandOption.path {δ : Type} (name word : String) (get : δ → Option String)
    (set : δ → String → δ) : CommandOption δ where
  name := name
  given draft := (get draft).isSome
  taker := .value word fun text draft =>
    if text.isEmpty then .error .valueRequired else .ok (set draft text)

/-- An option without a value. -/
def CommandOption.switch {δ : Type} (name : String) (get : δ → Bool) (set : δ → δ) :
    CommandOption δ where
  name := name
  given := get
  taker := .flag set

/-- An option that asks for a notice. -/
def CommandOption.asking {δ : Type} (name : String) (letter : Char) (wanted : Notice) :
    CommandOption δ where
  name := name
  letter? := some letter
  given _ := false
  taker := .notice wanted

end CommandLine

end ToolDiscovery
