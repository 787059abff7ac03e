import Overseer.Run.Fault
import Overseer.Supervisor.Record

/-! ## Progress of a run

What a run has done so far, and the single things it does: noting a record, entering a phase, and
calling the host, either until the call answers or until the deadline. Times are in milliseconds
since the run began. -/

namespace Overseer

/-- What a call came to that had a deadline. -/
inductive Timely (α : Type) where
  | answered (answer : Except ProcessError α)
  | expired

/-- Waits for a reply until the deadline, and gives the time after that. A reply that is there at
    once, or exactly at the deadline, is in time. -/
def Reply.within (deadline clock : Nat) : Reply α → Timely α × Nat
  | .never => (.expired, max clock deadline)
  | .after delay answer =>
    if delay = 0 ∨ clock + delay ≤ deadline then (.answered answer, clock + delay)
    else (.expired, max clock deadline)

/-- A run up to now. The calls it made and its records are kept latest first. -/
structure Progress (σ : Type) where
  world : σ
  clock : Nat
  phase : Phase
  findings : FindingSet
  calls : List Call
  records : List Record

namespace Progress

variable {σ : Type}

/-- A run that has done nothing. -/
def start (world : σ) : Progress σ := ⟨world, 0, .starting, .empty, [], []⟩

def note (r : Record) (p : Progress σ) : Progress σ := { p with records := r :: p.records }

/-- Notes the lines in their order. -/
def noteLeftovers (lines : List OutputLine) (p : Progress σ) : Progress σ :=
  lines.foldl (fun p l => p.note (.leftover l)) p

def addFindings (fs : FindingSet) (p : Progress σ) : Progress σ :=
  { p with findings := p.findings.union fs }

/-- Goes on to a phase. -/
def enter (q : Phase) (p : Progress σ) : Except Fault (Progress σ) :=
  match p.phase.advance q with
  | .error fault => .error fault
  | .ok q => .ok { p.note (.transition p.phase q) with phase := q }

/-- Makes a call and waits for it until the deadline. The world stays as it was if the call is
    given up. -/
def callWithin (deadline : Nat) (c : Call) (call : σ → Reply α × σ) (p : Progress σ) :
    Timely α × Progress σ :=
  let p := { p with calls := c :: p.calls }
  match (call p.world).1.within deadline p.clock with
  | (.answered a, clock) => (.answered a, { p with clock := clock, world := (call p.world).2 })
  | (.expired, clock) => (.expired, { p with clock := clock })

/-- Makes a call and waits for it as long as it takes; `none` if it never answers. -/
def callUntilDone (c : Call) (call : σ → Reply α × σ) (p : Progress σ) :
    Option (Except ProcessError α × Progress σ) :=
  match (call p.world).1 with
  | .never => none
  | .after delay a =>
    some (a, { p with
      calls := c :: p.calls, clock := p.clock + delay, world := (call p.world).2 })

end Progress

end Overseer
