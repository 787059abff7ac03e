import Overseer.Text.Split
import Overseer.Text.Utf8

/-! ## Arguments of the command

What may be given to the command: the file to analyse, and options with a value or without. Most
options may also be given by a variable of the environment. What is given is bytes, and need not be
text. -/

namespace Overseer.CommandLine

def programName : Text := "predwrap".toList

def version : Text := "0.1.0".toList

def about : Text := "Run Predator with timeout and process output".toList

inductive Argument where
  | input
  | timeout
  | out
  | is32Bit
  | debug
  | tool
  | format
  | help
  | version
deriving DecidableEq

/-- How an argument is written and described. -/
structure Description where
  /-- The letter of an option. -/
  short : Option Char
  /-- The name of an option. -/
  long : Option Text
  /-- What stands for the value in descriptions, if there is one. -/
  valueName : Option Text
  /-- The variable of the environment that may give the value. -/
  variableName : Option Text
  /-- The value if none is given. -/
  default : Option Text
  about : Text
deriving DecidableEq

namespace Argument

/-- The arguments in the order of their descriptions. -/
def all : List Argument := [.input, .timeout, .out, .is32Bit, .debug, .tool, .format, .help, .version]

def defaultTimeout : Nat := 20

def defaultOut : Text := "predator.log".toList

def defaultTool : Text := "slllvm".toList

def describe : Argument → Description
  | .input =>
    ⟨none, none, some "program.bc".toList, none, none,
      "Path to LLVM bitcode file to process".toList⟩
  | .timeout =>
    ⟨some 't', some "timeout".toList, some "SEC".toList, some "PREDWRAP_TIMEOUT".toList,
      some "20".toList, "Number of seconds to wait until Predator produces result".toList⟩
  | .out =>
    ⟨some 'o', some "out".toList, some "FILE".toList, some "PREDWRAP_OUT".toList, some defaultOut,
      "Where to save processed log output".toList⟩
  | .is32Bit => ⟨none, some "32".toList, none, none, none, "Use 32-bit mode".toList⟩
  | .debug =>
    ⟨none, some "debug".toList, none, none, none, "Enable debug logging of this wrapper".toList⟩
  | .tool =>
    ⟨none, some "tool".toList, some "EXE".toList, some "PREDWRAP_TOOL".toList, some defaultTool,
      "Predator driver executable".toList⟩
  | .format =>
    ⟨none, some "format".toList, some "FORMAT".toList, some "PREDWRAP_FORMAT".toList,
      some "text".toList, "Log file format (text or json)".toList⟩
  | .help => ⟨some 'h', some "help".toList, none, none, none, "Print help".toList⟩
  | .version => ⟨some 'V', some "version".toList, none, none, none, "Print version".toList⟩

/-- The option with a given name. -/
def ofLong? (name : Bytes) : Option Argument :=
  all.find? fun a => a.describe.long.map Utf8.encode = some name

/-- The option whose letter is a given byte. -/
def ofShort? (b : UInt8) : Option Argument :=
  all.find? fun a => a.describe.short.map String.utf8EncodeChar = some [b]

def takesValue (a : Argument) : Bool := a.describe.valueName.isSome

/-- The value of an argument in descriptions. -/
def valueText (a : Argument) : Text :=
  match a.describe.valueName with
  | none => []
  | some s => '<' :: s ++ ['>']

/-- An argument as it is named in messages. -/
def text (a : Argument) : Text :=
  match a.describe.long with
  | none => a.valueText
  | some s => if a.takesValue then "--".toList ++ s ++ ' ' :: a.valueText else "--".toList ++ s

end Argument

/-- The variables that are set. -/
abbrev Environment := Text → Option Bytes

end Overseer.CommandLine
