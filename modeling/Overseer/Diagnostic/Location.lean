import Overseer.Finding.Basic
import Overseer.Text.Numeral

/-! ## Locations of diagnostics

A diagnostic is written `file:row: severity: message` or `file:row:column: severity: message`, so
cutting it at its colons gives four or five fields. A line with any other number of fields, or with
a coordinate that is no numeral, has no location. -/

namespace Overseer

/-- The numbers a diagnostic gives for its place. -/
structure Location where
  row : Nat
  column : Option Nat
deriving DecidableEq

namespace Location

/-- A numeral below 2³², blanks around it left aside. -/
def readNumber? (field : Text) : Option Nat := Numeral.read32? field.trim

/-- The location in the fields of a line. -/
def ofFields? : List Text → Option Location
  | [_, row, _, _] => (readNumber? row).map fun r => ⟨r, none⟩
  | [_, row, column, _, _] =>
    match readNumber? row, readNumber? column with
    | some r, some c => some ⟨r, some c⟩
    | _, _ => none
  | _ => none

/-- The location of a line. -/
def ofLine? (line : Text) : Option Location := ofFields? (line.splitOn ':')

/-- The finding of a kind at this place. -/
def finding? (l : Location) (k : Kind) : Option Finding := Finding.ofNumbers? l.row l.column k

end Location

end Overseer
