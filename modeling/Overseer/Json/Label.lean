import Overseer.Json.Value
import Overseer.Run.Phase
import Overseer.Text.Quoted

/-! ## Labels in JSON

A value of a closed set is written as a JSON string with its label. It may also be read from an
object with the label as its only key and null as the value of that key. -/

namespace Overseer.Json

/-- Where a value of a wrong shape was found. -/
inductive Expected where
  | stringOrMap
  | unit
deriving DecidableEq

/-- Why a JSON value is no label. -/
inductive LabelFault where
  | unknown (label : Text) (labels : List Text)
  /-- A value of a wrong shape, as it is described. -/
  | wrongType (found : Text) (expected : Expected)
  /-- An object that has not exactly one key. -/
  | notOneKey
deriving DecidableEq

namespace LabelFault

def backquoted (s : Text) : Text := '\x60' :: s ++ ['\x60']

/-- The labels that would have been right. -/
def writeExpected : List Text → Text
  | [] => "there are no variants".toList
  | [a] => "expected ".toList ++ backquoted a
  | [a, b] => "expected ".toList ++ backquoted a ++ " or ".toList ++ backquoted b
  | labels => "expected one of ".toList ++ List.intercalate ", ".toList (labels.map backquoted)

def message : LabelFault → Text
  | .unknown label labels =>
    "unknown variant ".toList ++ backquoted label ++ ", ".toList ++ writeExpected labels
  | .wrongType found .stringOrMap =>
    "invalid type: ".toList ++ found ++ ", expected string or map".toList
  | .wrongType found .unit => "invalid type: ".toList ++ found ++ ", expected unit".toList
  | .notOneKey => "invalid value: map, expected map with a single key".toList

end LabelFault

/-- A value as it is described when it has a wrong shape. -/
def Value.describe : Value → Text
  | .null => "null".toList
  | .bool b => "boolean ".toList ++ LabelFault.backquoted (writeBool b)
  | .number n =>
    (match n with
      | .integer _ => "integer ".toList
      | .double _ _ => "floating point ".toList) ++ LabelFault.backquoted n.write
  | .string s => "string ".toList ++ s.quoted
  | .array _ => "sequence".toList
  | .object _ => "map".toList

/-- The member of `all` with a given label. -/
def findLabel (label : α → Text) (all : List α) (s : Text) : Except LabelFault α :=
  match all.find? fun a => label a = s with
  | some a => .ok a
  | none => .error (.unknown s (all.map label))

/-- Reads a member of `all` by its label. -/
def readLabel (label : α → Text) (all : List α) : Value → Except LabelFault α
  | .string s => findLabel label all s
  | .object [(s, v)] =>
    match findLabel label all s, v with
    | .error e, _ => .error e
    | .ok a, .null => .ok a
    | .ok _, v => .error (.wrongType v.describe .unit)
  | .object _ => .error .notOneKey
  | v => .error (.wrongType v.describe .stringOrMap)

end Overseer.Json

namespace Overseer

/-- Reads a kind from JSON. -/
def Kind.ofJson (v : Json.Value) : Except Json.LabelFault Kind := Json.readLabel Kind.token Kind.all v

/-- Reads a phase from JSON. -/
def Phase.ofJson (v : Json.Value) : Except Json.LabelFault Phase :=
  Json.readLabel Phase.label Phase.all v

end Overseer
