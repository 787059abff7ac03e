import Overseer.Run.Fault
import Overseer.Text.Split

/-! ## The text log

The first line of a text log is the token of a status. Each further line is a finding: its row, its
column or `none`, and the token of its kind, with a space between them. The order of the findings
carries no meaning, so writing takes them in any order. Reading allows blank lines and any blanks
between the fields, and stops at the first line that is wrong. -/

namespace Overseer.TextLog

/-- Stands for a column that is not there. -/
def noColumn : Text := "none".toList

-- ---------------------------------------------------------------------------
-- Writing
-- ---------------------------------------------------------------------------

def writeColumn : Option Coordinate → Text
  | none => noColumn
  | some c => Numeral.write c.val

/-- The line of a finding, without its end. -/
def writeFinding (f : Finding) : Text :=
  Text.spaced [Numeral.write f.row.val, writeColumn f.column, f.kind.token]

/-- The log of a status and of findings in the given order. -/
def write (status : RunStatus) (findings : List Finding) : Text :=
  (status.token :: findings.map writeFinding).flatMap (· ++ ['\n'])

-- ---------------------------------------------------------------------------
-- Reading
-- ---------------------------------------------------------------------------

/-- The number of a column, if the field is one. -/
def readColumn? (field : Text) : Option (Option Nat) :=
  if field = noColumn then some none else (Numeral.read32? field).map some

/-- The finding on a line that is not blank. -/
def readFinding (number : Nat) (line : Text) : Except Fault Finding :=
  match line.words with
  | [row, column, kind] =>
    match Numeral.read32? row, readColumn? column with
    | some r, some c =>
      match Kind.read kind with
      | .error e => .error e
      | .ok k =>
        match Finding.ofNumbers? r c k with
        | some f => .ok f
        | none => .error (.malformedLine number line)
    | _, _ => .error (.malformedLine number line)
  | _ => .error (.malformedLine number line)

/-- Reads a line after the first and adds its finding; only an ok run may have one. -/
def readLine (status : RunStatus) (number : Nat) (line : Text) (found : FindingSet) :
    Except Fault FindingSet :=
  if line.trim.isEmpty then .ok found
  else if status ≠ .ok then .error (.malformedLine number line)
  else
    match readFinding number line with
    | .error e => .error e
    | .ok f => .ok (found.insert f)

/-- Reads lines from a given number on. -/
def readLines (status : RunStatus) : Nat → List Text → FindingSet → Except Fault FindingSet
  | _, [], found => .ok found
  | number, line :: lines, found =>
    match readLine status number line found with
    | .error e => .error e
    | .ok found => readLines status (number + 1) lines found

/-- Reads a log. -/
def read (content : Text) : Except Fault RunResult :=
  match content.lines with
  | [] => .error (.malformedLine 1 [])
  | first :: rest =>
    match RunStatus.read first.trim with
    | .error e => .error e
    | .ok status =>
      match readLines status 2 rest .empty with
      | .error e => .error e
      | .ok found => .ok (.ofStatus status found)

end TextLog

/-- The text log of a result, with its findings as they come. -/
def RunResult.textLog (order : Enumeration) (r : RunResult) : Text :=
  TextLog.write r.status (order.list r.findings)

end Overseer
