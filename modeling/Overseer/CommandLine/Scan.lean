import Overseer.CommandLine.Settings
import Overseer.CommandLine.Style

/-! ## Reading the command line

The arguments are read from left to right. The value of an option may be joined to it or be the next
argument; after `--` everything is a file. A value is looked at when the next option or file comes,
or at the end, and only the name of a file may be other bytes than text. An argument that nobody
knows is reported before any value that was not yet looked at. -/

namespace Overseer.CommandLine

/-- Every option begins with it. -/
@[match_pattern] def hyphen : UInt8 := 0x2D

/-- Stands between an option and a value that is joined to it. -/
@[match_pattern] def equals : UInt8 := 0x3D

/-- Why a command line is refused. -/
inductive UsageError where
  | unexpectedArgument (s : Text)
  /-- A value for an option that has none. -/
  | unneededValue (value : Text) (a : Argument)
  | valueRequired (a : Argument)
  | repeated (a : Argument)
  | invalidValue (value : Text) (a : Argument) (reason : Text)
  /-- A value that has to be text is none. -/
  | invalidText
  | missingInput
deriving DecidableEq

namespace UsageError

/-- A text in a style between quotation marks. -/
def inQuotes (style : Style) (s : Text) : Text := '\'' :: style.apply s ++ ['\'']

/-- What is wrong. -/
def reason : UsageError → Text
  | .unexpectedArgument s => "unexpected argument ".toList ++ inQuotes .invalid s ++ " found".toList
  | .unneededValue value a =>
    "unexpected value ".toList ++ inQuotes .invalid value ++ " for ".toList
      ++ inQuotes .literal a.text ++ " found; no more were expected".toList
  | .valueRequired a =>
    "a value is required for ".toList ++ inQuotes .invalid a.text ++ " but none was supplied".toList
  | .repeated a =>
    "the argument ".toList ++ inQuotes .invalid a.text ++ " cannot be used multiple times".toList
  | .invalidValue value a reason =>
    "invalid value ".toList ++ inQuotes .invalid value ++ " for ".toList ++ inQuotes .literal a.text
      ++ ": ".toList ++ reason
  | .invalidText => "invalid UTF-8 was detected in one or more arguments".toList
  | .missingInput => "the following required arguments were not provided:".toList

/-- What to do about it. -/
def hint : Text :=
  "For more information, try ".toList ++ inQuotes .literal "--help".toList ++ ".\n".toList

/-- The whole message with its styles. -/
def message (e : UsageError) : Text :=
  Style.error.apply "error:".toList ++ ' ' :: e.reason ++ "\n\n".toList ++ hint

end UsageError

/-- Why reading ends before the end of the command line. -/
inductive Halt where
  | usage (e : UsageError)
  | help
  | version
deriving DecidableEq

/-- A command line up to the current argument. -/
structure Scan where
  given : Given
  /-- The last option with a value, or the last file, and its value if that has come. -/
  pending : Option (Argument × Option Bytes)
  /-- Whether a file has come. -/
  hasInput : Bool
  /-- Whether everything from here on is a file. -/
  onlyFiles : Bool
deriving DecidableEq

namespace Scan

def start : Scan := ⟨.nothing, none, false, false⟩

/-- Takes the value of an argument that was not given before. -/
def take (s : Scan) (a : Argument) (value : Bytes) : Except Halt Scan :=
  if s.given.has a then .error (.usage (.repeated a))
  else
    match s.given.put a value with
    | .ok g => .ok { s with given := g }
    | .error .missing => .error (.usage (.valueRequired a))
    | .error .notText => .error (.usage .invalidText)
    | .error (.rejected reason) => .error (.usage (.invalidValue (Utf8.decode value) a reason))

/-- Looks at the value that is pending. -/
def settle (s : Scan) : Except Halt Scan :=
  match s.pending with
  | none => .ok s
  | some (a, none) => .error (.usage (.valueRequired a))
  | some (a, some value) => { s with pending := none }.take a value

/-- An option with a value joined to it. -/
def attach (s : Scan) (a : Argument) (value : Bytes) : Except Halt Scan :=
  match s.settle with
  | .error h => .error h
  | .ok s => s.take a value

/-- An option whose value comes next. -/
def expect (s : Scan) (a : Argument) : Except Halt Scan :=
  match s.settle with
  | .error h => .error h
  | .ok s => .ok { s with pending := some (a, none) }

/-- An option without a value. -/
def raise (s : Scan) (a : Argument) : Except Halt Scan :=
  match s.settle, a with
  | .error h, _ => .error h
  | .ok _, .help => .error .help
  | .ok _, .version => .error .version
  | .ok s, a => s.take a []

/-- A file, of which there is one. -/
def file (s : Scan) (value : Bytes) : Except Halt Scan :=
  if s.hasInput then .error (.usage (.unexpectedArgument (Utf8.decode value)))
  else
    match s.settle with
    | .error h => .error h
    | .ok s => .ok { s with pending := some (.input, some value), hasInput := true }

/-- An argument after two hyphens: the name of an option, perhaps with `=` and a value. -/
def long (s : Scan) (body : Bytes) : Except Halt Scan :=
  let name := body.takeWhile (· ≠ equals)
  match Argument.ofLong? name, body.dropWhile (· ≠ equals) with
  | none, _ => .error (.usage (.unexpectedArgument ("--".toList ++ Utf8.decode name)))
  | some a, [] => if a.takesValue then s.expect a else s.raise a
  | some a, _ :: value =>
    if a.takesValue then s.attach a value
    else .error (.usage (.unneededValue (Utf8.decode value) a))

/-- What is shown of letters that are no options: the first one, or all if they begin with no
    character. -/
def shownLetters (letters : Bytes) : Text :=
  match Utf8.first? letters with
  | some c => [c]
  | none => Utf8.decode letters

/-- The letters after a hyphen. A letter of an option with a value is followed by the value, perhaps
    after `=`. -/
def shorts (s : Scan) : Bytes → Except Halt Scan
  | [] => .ok s
  | b :: rest =>
    match Argument.ofShort? b with
    | none => .error (.usage (.unexpectedArgument ('-' :: shownLetters (b :: rest))))
    | some a =>
      if a.takesValue then
        match rest with
        | [] => s.expect a
        | equals :: value => s.attach a value
        | value => s.attach a value
      else
        match s.raise a with
        | .error h => .error h
        | .ok s => shorts s rest

/-- An argument that is no option: the value that is expected, or a file. -/
def plain (s : Scan) (value : Bytes) : Except Halt Scan :=
  match s.pending with
  | some (a, none) => .ok { s with pending := some (a, some value) }
  | _ => s.file value

/-- Reads the next argument. -/
def step (s : Scan) (arg : Bytes) : Except Halt Scan :=
  if s.onlyFiles then s.file arg
  else
    match arg with
    | [hyphen, hyphen] => .ok { s with onlyFiles := true }
    | hyphen :: hyphen :: body => s.long body
    | hyphen :: b :: rest => s.shorts (b :: rest)
    | _ => s.plain arg

/-- Takes what the environment gives for an argument that was not given. -/
def fill (env : Environment) (s : Scan) (a : Argument) : Except Halt Scan :=
  if s.given.has a then .ok s
  else
    match a.describe.variableName.bind env with
    | none => .ok s
    | some value => s.take a value

/-- Reads all arguments and then the environment. -/
def all (args : List Bytes) (env : Environment) : Except Halt Scan :=
  match args.foldlM step start with
  | .error h => .error h
  | .ok s =>
    match s.settle with
    | .error h => .error h
    | .ok s => Argument.all.foldlM (fill env) s

end Scan

/-- The settings that a command line and the environment give. -/
def Settings.read (args : List Bytes) (env : Environment) : Except Halt Settings :=
  match Scan.all args env with
  | .error h => .error h
  | .ok s =>
    match Settings.ofGiven? s.given with
    | some settings => .ok settings
    | none => .error (.usage .missingInput)

end Overseer.CommandLine
