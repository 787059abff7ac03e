import Overseer.Report.TextLog
import Overseer.Report.JsonLog

/-! ## Log formats -/

namespace Overseer

/-- How a log is written. -/
inductive LogFormat where
  | text
  | json
deriving DecidableEq

namespace LogFormat

/-- The format of logs when nothing else is asked for. -/
def standard : LogFormat := .text

def label : LogFormat → Text
  | .text => "Text".toList
  | .json => "Json".toList

def ofToken? (s : Text) : Option LogFormat :=
  if s = "text".toList then some .text
  else if s = "json".toList then some .json
  else none

/-- The log of a result, given how its findings come. -/
def render (format : LogFormat) (order : Enumeration) (r : RunResult) : Text :=
  match format with
  | .text => r.textLog order
  | .json => r.jsonLog order

end LogFormat

end Overseer
