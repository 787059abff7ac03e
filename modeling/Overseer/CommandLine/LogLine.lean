import Overseer.CommandLine.Settings
import Overseer.Json.Value
import Overseer.Report.LogFile
import Overseer.Supervisor.Record
import Overseer.Text.Quoted

/-! ## The log of the command

What the command tells about its work: log entries with the part of the program they come from, and
how they are written for people and for programs. -/

namespace Overseer.CommandLine

-- ---------------------------------------------------------------------------
-- Settings in the log
-- ---------------------------------------------------------------------------

/-- A truth value as it is logged. -/
def switchText (b : Bool) : Text := if b then "true".toList else "false".toList

/-- The settings with their names, as they are logged. -/
def Settings.fields (s : Settings) : List (Text × Text) :=
  [("infile".toList, Text.quotedBytes s.input), ("timeout".toList, Numeral.write s.timeout),
    ("out".toList, Text.quotedBytes s.out), ("is_32bit".toList, switchText s.is32Bit),
    ("debug".toList, switchText s.debug), ("tool".toList, Text.quoted s.tool),
    ("format".toList, s.format.label)]

/-- All settings as they are logged. -/
def Settings.text (s : Settings) : Text :=
  "Cli \x7b ".toList
    ++ List.intercalate ", ".toList (s.fields.map fun f => f.1 ++ ": ".toList ++ f.2)
    ++ " \x7d".toList

-- ---------------------------------------------------------------------------
-- Lines
-- ---------------------------------------------------------------------------

/-- A log entry and where it comes from. -/
structure LogLine where
  target : Text
  entry : Log.Entry
deriving DecidableEq

namespace LogLine

/-- A record of the run. -/
def ofRecord (r : Record) : LogLine := ⟨"predwrap_core::application::supervisor".toList, r.entry⟩

/-- What the command was asked for. -/
def parsed (s : Settings) : LogLine :=
  ⟨"predwrap".toList, ⟨.debug, "Parsed arguments".toList,
    [("version".toList, .text version), ("args".toList, .text s.text)]⟩⟩

/-- Where the analyser was found. -/
def found (tool : Text) (path : Path) : LogLine :=
  ⟨"predwrap".toList, ⟨.debug, "Toolchain found".toList,
    [("executable".toList, .text tool), ("path".toList, .text path.display)]⟩⟩

/-- Why the command fails. -/
def failed (reason : Text) : LogLine :=
  ⟨"predwrap".toList, ⟨.error, "predwrap failed".toList, [("error".toList, .text reason)]⟩⟩

/-- The log file is about to be written. -/
def writing (path : Path) : LogLine :=
  ⟨"predwrap".toList, ⟨.info, "Writing logfile".toList, [("path".toList, .text path.display)]⟩⟩

/-- The log file was written. -/
def written (f : LogFile) (r : RunResult) : LogLine :=
  ⟨"predwrap_infra_fs::log_file_persister".toList, f.entry r⟩

-- ---------------------------------------------------------------------------
-- Writing
-- ---------------------------------------------------------------------------

def fieldText : Log.FieldValue → Text
  | .text s => s
  | .number n => Numeral.write n

def fieldJson : Log.FieldValue → Json.Value
  | .text s => .string s
  | .number n => .integer n

/-- A line for people. -/
def text (l : LogLine) : Text :=
  Text.spaced ([l.entry.level.label, l.target ++ [':'], l.entry.message]
    ++ l.entry.fields.map fun f => f.1 ++ '=' :: fieldText f.2)

/-- A line for programs, as an object. -/
def toJson (l : LogLine) : Json.Value :=
  .object [("level".toList, .string l.entry.level.label),
    ("fields".toList, .object (("message".toList, .string l.entry.message)
      :: l.entry.fields.map fun f => (f.1, fieldJson f.2))),
    ("target".toList, .string l.target)]

end LogLine

end Overseer.CommandLine
