import Overseer.Run.Phase
import Overseer.Text.Numeral

/-! ## Faults

What can be wrong with the domain's own data: a change of phase that no run makes, and text logs
that no run writes. -/

namespace Overseer

inductive Fault where
  | invalidTransition (source target : Phase)
  | unknownKind (token : Text)
  | unknownStatus (token : Text)
  /-- A line of a text log, with its number counted from one. -/
  | malformedLine (number : Nat) (line : Text)
deriving DecidableEq

namespace Fault

def message : Fault → Text
  | .invalidTransition source target =>
    "Invalid supervisor state transition: ".toList ++ source.label ++ " -> ".toList ++ target.label
  | .unknownKind token => "Unknown finding kind: ".toList ++ token
  | .unknownStatus token => "Unknown run status: ".toList ++ token
  | .malformedLine number line =>
    "Malformed log line ".toList ++ Numeral.write number ++ ": ".toList ++ line

end Fault

/-- The kind with a given token. -/
def Kind.read (s : Text) : Except Fault Kind :=
  match Kind.ofToken? s with
  | some k => .ok k
  | none => .error (.unknownKind s)

/-- The status with a given token. -/
def RunStatus.read (s : Text) : Except Fault RunStatus :=
  match RunStatus.ofToken? s with
  | some t => .ok t
  | none => .error (.unknownStatus s)

/-- Goes on to another phase if it may come right after this one. -/
def Phase.advance (p q : Phase) : Except Fault Phase :=
  if p.Leads q then .ok q else .error (.invalidTransition p q)

end Overseer
