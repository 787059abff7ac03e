import Overseer.Diagnostic.Location
import Overseer.Finding.Set
import Overseer.Pattern.Reader
import Overseer.Pattern.Search
import Overseer.Text.Split

/-! ## Classifying lines

A table gives for each pattern the kinds of the faults that lines with this pattern report. A line
reports a finding for every kind of every row that occurs in it, at the location written in it.
Lines with the trace mark only explain an earlier line and report nothing. -/

namespace Overseer

/-- A row of a table as it is written. -/
structure Row where
  pattern : Text
  kinds : List Kind
deriving DecidableEq

/-- A table whose patterns were read. -/
structure Classifier where
  rows : List (Pattern × List Kind)
deriving DecidableEq

/-- What a line says. -/
structure Classification where
  findings : FindingSet
  isTrace : Bool
deriving DecidableEq

namespace Classifier

/-- Stands in lines that explain an earlier one. -/
def traceMark : Text := "TRACE".toList

/-- Reads the patterns of a table. -/
def ofRows : List Row → Except PatternFault Classifier
  | [] => .ok ⟨[]⟩
  | row :: rows =>
    match Pattern.read row.pattern with
    | .error e => .error e
    | .ok p => (ofRows rows).map fun c => ⟨(p, row.kinds) :: c.rows⟩

/-- The kinds of all rows that occur in a line. -/
def kinds (c : Classifier) (line : Text) : List Kind :=
  (c.rows.filter fun row => row.1.search line).flatMap (·.2)

/-- The findings of a line without trace mark. -/
def findings (c : Classifier) (line : Text) : List Finding :=
  match Location.ofLine? line with
  | none => []
  | some l => (c.kinds line).filterMap l.finding?

/-- What a line says by this table. -/
def classify (c : Classifier) (line : Text) : Classification :=
  if traceMark.occursIn line then ⟨.empty, true⟩ else ⟨.ofList (c.findings line), false⟩

-- ---------------------------------------------------------------------------
-- The built-in table
-- ---------------------------------------------------------------------------

/-- The diagnostics of the analyser. -/
def builtinRows : List Row := [
  ⟨": error: dereference of already deleted heap object".toList, [.invalidAccess]⟩,
  ⟨": error: dereferencing object of size [0-9]*B out of bounds".toList, [.invalidAccess]⟩,
  ⟨": error: dereference of NULL value".toList, [.invalidAccess]⟩,
  ⟨": error: invalid dereference".toList, [.invalidAccess]⟩,
  ⟨": error: dereference of non-existing non-heap object".toList, [.invalidAccess]⟩,
  ⟨": error: not enough space to store value of a pointer".toList, [.invalidAccess]⟩,
  ⟨": error: invalid L-value".toList, [.invalidAccess]⟩,
  ⟨": error: (free|realloc)\\(\\) called with offset".toList, [.freeError]⟩,
  ⟨": error: invalid free\\(\\)".toList, [.freeError]⟩,
  ⟨": error: double free".toList, [.freeError]⟩,
  ⟨": error: attempt to free a non-existing non-heap object".toList, [.freeError]⟩,
  ⟨": error: attempt to free a non-heap object".toList, [.freeError]⟩,
  ⟨": error: (free|realloc)\\(\\) called on non-pointer value".toList, [.freeError]⟩,
  ⟨": (error|warning): memory leak detected".toList, [.leak]⟩]

/-- The classifier of the built-in table. -/
def builtin : Classifier := ((ofRows builtinRows).toOption).getD ⟨[]⟩

/-- Every pattern of the built-in table can be read. -/
theorem ofRows_builtinRows : ofRows builtinRows = .ok builtin := by
  have h : (ofRows builtinRows).toOption.isSome = true := by decide +kernel
  unfold builtin
  cases hr : ofRows builtinRows with
  | error e => rw [hr] at h; cases h
  | ok c => rfl

end Classifier

end Overseer
