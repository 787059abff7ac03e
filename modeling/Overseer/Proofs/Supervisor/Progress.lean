import Overseer.Proofs.Session.Timeline

/-! ## What the steps of a run do

One equation for each thing a run can do: a call is answered or given up, a phase is entered, lines
are noted, a run is concluded. Later proofs use these and open none of the definitions. -/

namespace Overseer

variable {σ α : Type}

namespace Progress

/-! ### Calls -/

/-- A run after a call that took `d` and left the world `w`. -/
def answer (k : Call) (d : Nat) (w : σ) (p : Progress σ) : Progress σ :=
  { p with calls := k :: p.calls, clock := p.clock + d, world := w }

/-- A run after a call that it gave up at the deadline. -/
def giveUp (k : Call) (deadline : Nat) (p : Progress σ) : Progress σ :=
  { p with calls := k :: p.calls, clock := max p.clock deadline }

variable {k : Call} {call : σ → Reply α × σ} {p : Progress σ} {deadline d : Nat}
  {a : Except ProcessError α}

theorem callWithin_answered (reply : (call p.world).1 = .after d a)
    (inTime : (call p.world).1.InTime deadline p.clock) :
    p.callWithin deadline k call = (.answered a, p.answer k d (call p.world).2) := by
  rw [reply, Reply.inTime_after] at inTime
  simp [callWithin, reply, Reply.within, inTime, answer]

theorem callWithin_overdue (overdue : ¬ (call p.world).1.InTime deadline p.clock) :
    p.callWithin deadline k call = (.expired, p.giveUp k deadline) := by
  cases reply : (call p.world).1 with
  | never => simp [callWithin, reply, Reply.within, giveUp]
  | after d a =>
    rw [reply, Reply.inTime_after] at overdue
    simp [callWithin, reply, Reply.within, overdue, giveUp]

theorem callUntilDone_after (reply : (call p.world).1 = .after d a) :
    p.callUntilDone k call = some (a, p.answer k d (call p.world).2) := by
  simp [callUntilDone, reply, answer]

theorem callUntilDone_never (reply : (call p.world).1 = .never) :
    p.callUntilDone k call = none := by
  simp [callUntilDone, reply]

/-! ### Phases and records -/

/-- A run that has gone on to a phase. -/
def move (q : Phase) (p : Progress σ) : Progress σ :=
  { p with records := .transition p.phase q :: p.records, phase := q }

theorem enter_of_leads {q : Phase} (h : p.phase.Leads q) : p.enter q = .ok (p.move q) := by
  simp [enter, Phase.advance, h, move, note]

/-- A run after a line of the child. -/
def absorb (c : Classifier) (l : OutputLine) (p : Progress σ) : Progress σ :=
  (p.note (.output l)).addFindings (c.classify l.text).findings

theorem noteLeftovers_eq (lines : List OutputLine) (p : Progress σ) :
    p.noteLeftovers lines =
      { p with records := (lines.map .leftover).reverse ++ p.records } := by
  unfold noteLeftovers
  induction lines generalizing p with
  | nil => rfl
  | cons l lines ih =>
    rw [List.foldl_cons, ih, List.map_cons, List.reverse_cons, List.append_assoc]
    rfl

end Progress

theorem Supervisor.conclude_of_leads {q : Phase} {p : Progress σ} (h : p.phase.Leads q) :
    conclude q p = ⟨.ok (.ofStatus (q.status?.getD .error) p.findings), p.move q⟩ := by
  unfold conclude
  rw [Progress.enter_of_leads h]
  rfl

end Overseer
