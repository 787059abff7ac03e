import Overseer.Json.Value
import Overseer.Run.Result

/-! ## The JSON log

A result as a JSON object with its status and its findings. Whatever order the findings come in,
they are written in their own order and each once. -/

namespace Overseer.JsonLog

def ofColumn : Option Coordinate → Json.Value
  | none => .null
  | some c => .integer c.val

/-- A finding as an object. -/
def ofFinding (f : Finding) : Json.Value :=
  .object [("row".toList, .integer f.row.val), ("column".toList, ofColumn f.column),
    ("kind".toList, .string f.kind.token)]

/-- A status and findings, which may come in any order, as an object. -/
def document (status : RunStatus) (findings : List Finding) : Json.Value :=
  .object [("status".toList, .string status.token),
    ("findings".toList, .array ((FindingSet.ofList findings).toList.map ofFinding))]

end JsonLog

namespace RunResult

def toJson (order : Enumeration) (r : RunResult) : Json.Value :=
  JsonLog.document r.status (order.list r.findings)

/-- The JSON log of a result: its object over several lines, and a line feed. -/
def jsonLog (order : Enumeration) (r : RunResult) : Text := (r.toJson order).pretty ++ ['\n']

end RunResult

end Overseer
