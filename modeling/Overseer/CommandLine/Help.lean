import Overseer.CommandLine.Style

/-! ## Help

The text that explains the command, and the text that gives its version. -/

namespace Overseer.CommandLine

namespace Help

def spaces (n : Nat) : Text := List.replicate n ' '

/-- The letter of an option, or as many spaces. -/
def letter (a : Argument) : Text :=
  match a.describe.short with
  | none => spaces 4
  | some c => Style.literal.apply ['-', c] ++ [',', ' ']

/-- An argument with the part in style that is typed as it is. -/
def name (a : Argument) : Text :=
  match a.describe.long with
  | none => a.valueText
  | some s =>
    Style.literal.apply ("--".toList ++ s) ++ if a.takesValue then ' ' :: a.valueText else []

/-- The options in the order of their descriptions. -/
def options : List Argument := Argument.all.filter fun a => a.describe.long.isSome

/-- The files in the order of their descriptions. -/
def files : List Argument := Argument.all.filter fun a => a.describe.long.isNone

/-- The width of the widest of some arguments. -/
def width (args : List Argument) : Nat := (args.map fun a => a.text.length).foldl max 0

/-- The variable of an argument and what it holds now. -/
def variableNote (env : Environment) (a : Argument) : Text :=
  match a.describe.variableName with
  | none => []
  | some name => " [env: ".toList ++ name ++ '=' :: Utf8.decode ((env name).getD []) ++ [']']

def defaultNote (a : Argument) : Text :=
  match a.describe.default with
  | none => []
  | some s => " [default: ".toList ++ s ++ [']']

/-- Names of arguments filled up with spaces to the column behind them. -/
def nameColumn (args : List Argument) (a : Argument) : Text :=
  name a ++ spaces (width args + 2 - a.text.length)

/-- Where descriptions of options begin. -/
def optionColumn : Nat := 2 + 4 + width options + 2

/-- A text whose further lines begin at a column. -/
def hanging (column : Nat) (s : Text) : Text :=
  s.flatMap fun c => if c = '\n' then '\n' :: spaces column else [c]

/-- The line of a file. -/
def fileLine (a : Argument) : Text := spaces 2 ++ nameColumn files a ++ a.describe.about

/-- The line of an option. -/
def optionLine (env : Environment) (a : Argument) : Text :=
  spaces 2 ++ letter a ++ nameColumn options a
    ++ hanging optionColumn (a.describe.about ++ variableNote env a ++ defaultNote a)

def usageLine : Text :=
  Text.spaced ([Style.heading.apply "Usage:".toList, Style.literal.apply programName,
    "[OPTIONS]".toList] ++ files.map (·.text))

def lines (env : Environment) : List Text :=
  [about, [], usageLine, [], Style.heading.apply "Arguments:".toList] ++ files.map fileLine
    ++ [[], Style.heading.apply "Options:".toList] ++ options.map (optionLine env)

/-- The whole text with its styles. -/
def text (env : Environment) : Text := (lines env).flatMap (· ++ ['\n'])

end Help

def versionText : Text := Text.spaced [programName, version] ++ ['\n']

end Overseer.CommandLine
