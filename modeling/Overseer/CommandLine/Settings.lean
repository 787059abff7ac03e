import Overseer.CommandLine.Argument
import Overseer.Failure
import Overseer.Files.Path
import Overseer.Invocation

/-! ## Settings of the command

What the arguments say, first as far as they were given, and then with a value for each. -/

namespace Overseer.CommandLine

/-- What is wrong with the value of an argument. -/
inductive ValueFault where
  /-- It is empty and must not be. -/
  | missing
  /-- It is no text and must be. -/
  | notText
  | rejected (reason : Text)
deriving DecidableEq

/-- What was given so far. -/
structure Given where
  input : Option Bytes
  /-- In seconds. -/
  timeout : Option Nat
  out : Option Path
  is32Bit : Bool
  debug : Bool
  tool : Option Text
  format : Option LogFormat
deriving DecidableEq

namespace Given

def nothing : Given := ⟨none, none, none, false, false, none, none⟩

/-- Whether an argument was given. -/
def has (g : Given) : Argument → Bool
  | .input => g.input.isSome
  | .timeout => g.timeout.isSome
  | .out => g.out.isSome
  | .is32Bit => g.is32Bit
  | .debug => g.debug
  | .tool => g.tool.isSome
  | .format => g.format.isSome
  | .help | .version => false

/-- The first number of seconds that is too large. -/
def timeoutBound : Nat := 0x10000000000000000

/-- Takes a number of seconds. -/
def putTimeout (g : Given) (value : Text) : Except ValueFault Given :=
  match Numeral.read timeoutBound value with
  | .ok n => .ok { g with timeout := some n }
  | .error e => .error (.rejected e.message)

/-- Takes the name of a format. -/
def putFormat (g : Given) (value : Text) : Except ValueFault Given :=
  match LogFormat.read value with
  | .ok f => .ok { g with format := some f }
  | .error e => .error (.rejected e.message)

/-- Takes a value that has to be text. -/
def putText (g : Given) (put : Given → Text → Except ValueFault Given) (value : Bytes) :
    Except ValueFault Given :=
  match Utf8.read? value with
  | none => .error .notText
  | some text => put g text

/-- Takes the value of an argument; an option without one has no use for it. A file may have any name
    but the empty one. -/
def put (g : Given) (a : Argument) (value : Bytes) : Except ValueFault Given :=
  match a with
  | .input => if value.isEmpty then .error .missing else .ok { g with input := some value }
  | .timeout => g.putText putTimeout value
  | .out => if value.isEmpty then .error .missing else .ok { g with out := some value }
  | .is32Bit => .ok { g with is32Bit := true }
  | .debug => .ok { g with debug := true }
  | .tool => g.putText (fun g text => .ok { g with tool := some text }) value
  | .format => g.putText putFormat value
  | .help | .version => .ok g

end Given

structure Settings where
  input : Bytes
  /-- In seconds. -/
  timeout : Nat
  out : Path
  is32Bit : Bool
  debug : Bool
  tool : Text
  format : LogFormat
deriving DecidableEq

namespace Settings

/-- Everything that was given, and what stands for the rest; the input has to be given. -/
def ofGiven? (g : Given) : Option Settings :=
  g.input.map fun input =>
    ⟨input, g.timeout.getD Argument.defaultTimeout, g.out.getD (Utf8.encode Argument.defaultOut),
      g.is32Bit, g.debug, g.tool.getD Argument.defaultTool, g.format.getD LogFormat.standard⟩

def configuration (s : Settings) : Configuration := ⟨s.tool, 1000 * s.timeout, s.is32Bit⟩

/-- What is started. -/
def invocation (s : Settings) : Invocation := s.configuration.invocation s.input

end Settings

end Overseer.CommandLine
