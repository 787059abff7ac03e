import Overseer.Run.Result

/-! ## Phases of a run

A supervised run goes through phases: the child is started, it compiles its input, it streams its
diagnostics, and it ends in one of four terminal phases, each of which stands for a status. -/

namespace Overseer

/-- Where a run is. -/
inductive Phase where
  | starting
  | compilingInput
  | streaming
  | completed
  | unknown
  | error
  | timedOut
deriving DecidableEq

namespace Phase

def all : List Phase :=
  [.starting, .compilingInput, .streaming, .completed, .unknown, .error, .timedOut]

/-- How a phase is written. -/
def label : Phase → Text
  | .starting => "STARTING".toList
  | .compilingInput => "COMPILING_INPUT".toList
  | .streaming => "STREAMING".toList
  | .completed => "COMPLETED".toList
  | .unknown => "UNKNOWN".toList
  | .error => "ERROR".toList
  | .timedOut => "TIMED_OUT".toList

/-- The phases that may come right after a phase. -/
def successors : Phase → List Phase
  | .starting => [.compilingInput, .error]
  | .compilingInput => [.streaming, .error, .timedOut]
  | .streaming => [.completed, .unknown, .error, .timedOut]
  | .completed | .unknown | .error | .timedOut => []

/-- `p.Leads q` when `q` may come right after `p`. -/
def Leads (p q : Phase) : Prop := q ∈ p.successors

instance (p q : Phase) : Decidable (p.Leads q) := by unfold Leads; infer_instance

/-- The status a terminal phase stands for. -/
def status? : Phase → Option RunStatus
  | .completed => some .ok
  | .unknown => some .unknown
  | .error => some .error
  | .timedOut => some .timeout
  | _ => none

/-- Whether a run in this phase is over. -/
def isTerminal (p : Phase) : Bool := p.status?.isSome

theorem label_inj {p q : Phase} : p.label = q.label ↔ p = q := by
  cases p <;> cases q <;> decide

/-- A phase is terminal exactly when nothing may come after it. -/
theorem isTerminal_iff {p : Phase} : p.isTerminal = true ↔ ∀ q, ¬ p.Leads q := by
  cases p
  case starting => exact iff_of_false (by decide) fun h => h .error (by decide)
  case compilingInput => exact iff_of_false (by decide) fun h => h .error (by decide)
  case streaming => exact iff_of_false (by decide) fun h => h .error (by decide)
  all_goals exact iff_of_true (by decide) fun q => List.not_mem_nil

end Phase

end Overseer
