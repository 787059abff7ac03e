import Overseer.Text.Numeral

/-! ## Log entries

An entry has a level, a message and named fields, whose values are texts or numbers. -/

namespace Overseer

namespace Log

/-- How much an entry matters. -/
inductive Level where
  | error
  | warn
  | info
  | debug
  | trace
deriving DecidableEq

namespace Level

/-- The levels from the one that matters most. -/
def all : List Level := [.error, .warn, .info, .debug, .trace]

def label : Level → Text
  | .error => "ERROR".toList
  | .warn => "WARN".toList
  | .info => "INFO".toList
  | .debug => "DEBUG".toList
  | .trace => "TRACE".toList

/-- The number of a level, one for the one that matters most. -/
def rank : Level → Nat
  | .error => 1
  | .warn => 2
  | .info => 3
  | .debug => 4
  | .trace => 5

end Level

inductive FieldValue where
  | text (s : Text)
  | number (n : Nat)
deriving DecidableEq

structure Entry where
  level : Level
  message : Text
  fields : List (Text × FieldValue)
deriving DecidableEq

/-- The names of all fields; the message is one of them. -/
def Entry.fieldNames (e : Entry) : List Text := "message".toList :: e.fields.map (·.1)

end Log

end Overseer
