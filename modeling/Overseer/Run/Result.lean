import Overseer.Finding.Set

/-! ## Results

A run ends with a status. Only a run that is ok carries findings; `RunResult.ofStatus` drops them
for every other status. -/

namespace Overseer

/-- How a run ended. -/
inductive RunStatus where
  /-- The analyser reached its completion mark. -/
  | ok
  /-- The budget ran out. -/
  | timeout
  /-- The analyser met a construct on which it gives no guarantee. -/
  | unknown
  /-- The analyser did not start, reported an error nobody knows, or ended early. -/
  | error
deriving DecidableEq

namespace RunStatus

def all : List RunStatus := [.ok, .timeout, .unknown, .error]

/-- How a status is written in logs. -/
def token : RunStatus → Text
  | .ok => "ok".toList
  | .timeout => "timeout".toList
  | .unknown => "unknown".toList
  | .error => "error".toList

/-- The status with a given token. -/
def ofToken? (s : Text) : Option RunStatus := all.find? fun t => t.token = s

theorem token_inj {s t : RunStatus} : s.token = t.token ↔ s = t := by
  cases s <;> cases t <;> decide

theorem ofToken?_eq_some {s : Text} {t : RunStatus} : ofToken? s = some t ↔ s = t.token := by
  constructor
  · intro h
    have := List.find?_some h
    simp only [decide_eq_true_eq] at this
    exact this.symm
  · rintro rfl
    cases t <;> decide

end RunStatus

/-- The status of a run and the findings it is reported with. -/
structure RunResult where
  status : RunStatus
  findings : FindingSet
deriving DecidableEq

namespace RunResult

/-- The result of a run with a given status; only an ok run keeps its findings. -/
def ofStatus (status : RunStatus) (findings : FindingSet) : RunResult :=
  match status with
  | .ok => ⟨.ok, findings⟩
  | _ => ⟨status, .empty⟩

@[simp] theorem status_ofStatus (s : RunStatus) (fs : FindingSet) : (ofStatus s fs).status = s := by
  cases s <;> rfl

theorem findings_ofStatus_of_ne {s : RunStatus} (fs : FindingSet) (h : s ≠ .ok) :
    (ofStatus s fs).findings = .empty := by
  cases s with
  | ok => exact absurd rfl h
  | timeout => rfl
  | unknown => rfl
  | error => rfl

end RunResult

end Overseer
