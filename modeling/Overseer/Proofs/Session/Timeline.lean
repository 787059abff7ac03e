import Mathlib.Data.ENat.Basic
import Overseer.Diagnostic.Signal
import Overseer.Session.Script
import Overseer.Supervisor.Run

/-! ## Timelines

A timeline is a session as it goes in time: the replies to launching the child, to reading its first
line and to reading its events one after the other. It says when each reply arrives, which events a
run with a given budget gets to see, and what the result of that run has to be. None of this speaks
of the loop that reads the events.

Times are in milliseconds since the run began; a reply that never comes arrives at infinity. -/

namespace Overseer

/-! ### Replies -/

/-- The status that a signal gives a run, if it decides. -/
def Signal.status? : Signal → Option RunStatus
  | .none => .none
  | .unsupportedFeature => some .unknown
  | .unclassifiedError => some .error
  | .completion => some .ok

namespace Reply

variable {α : Type}

/-- How long a reply takes. -/
def delay : Reply α → ℕ∞
  | .never => ⊤
  | .after d _ => d

@[simp] theorem delay_never : (never : Reply α).delay = ⊤ := rfl

@[simp] theorem delay_after (d : Nat) (a : Except ProcessError α) : (after d a).delay = d := rfl

/-- A reply to a call made at `start` is in time if it is there at once or at the deadline. -/
def InTime (deadline : Nat) (start : ℕ∞) (r : Reply α) : Prop :=
  r.delay = 0 ∨ start + r.delay ≤ deadline

@[simp] theorem not_inTime_never {deadline : Nat} {start : ℕ∞} :
    ¬ (never : Reply α).InTime deadline start := by
  simp [InTime]

@[simp] theorem inTime_after {deadline clock d : Nat} {a : Except ProcessError α} :
    (after d a).InTime deadline clock ↔ d = 0 ∨ clock + d ≤ deadline := by
  simp only [InTime, delay_after, Nat.cast_eq_zero]
  norm_cast

/-- A reply is late or answers in time. -/
theorem overdue_or_answers (r : Reply α) (deadline : Nat) (start : ℕ∞) :
    ¬ r.InTime deadline start ∨ ∃ d a, r = .after d a ∧ r.InTime deadline start := by
  by_cases h : r.InTime deadline start
  · cases r with
    | never => exact absurd h not_inTime_never
    | after d a => exact .inr ⟨d, a, rfl, h⟩
  · exact .inl h

/-- The call succeeds, after a while. -/
def Succeeds (r : Reply α) : Prop := ∃ d a, r = .after d (.ok a)

/-- The call fails, after a while. -/
def Fails (r : Reply α) : Prop := ∃ d e, r = .after d (.error e)

theorem Succeeds.not_fails {r : Reply α} (h : r.Succeeds) : ¬ r.Fails := by
  obtain ⟨d, a, rfl⟩ := h
  rintro ⟨d', e, h⟩
  cases h

/-- The reply brings a line that decides nothing. -/
def Passes (c : Classifier) (r : Reply Event) : Prop :=
  ∃ d l, r = .after d (.ok (.line l)) ∧ c.signal l.text = .none

/-- The status that a reply to reading an event gives the run, if it decides. -/
def status? (c : Classifier) : Reply Event → Option RunStatus
  | .never => none
  | .after _ (.error _) => some .error
  | .after _ (.ok (.exited _)) => some .error
  | .after _ (.ok (.line l)) => (c.signal l.text).status?

/-- What the line of a reply reports. -/
def findings (c : Classifier) : Reply Event → FindingSet
  | .after _ (.ok (.line l)) => (c.classify l.text).findings
  | _ => .empty

theorem Passes.status?_eq {c : Classifier} {r : Reply Event} (h : r.Passes c) :
    r.status? c = none := by
  obtain ⟨d, l, rfl, hl⟩ := h
  simp [status?, hl, Signal.status?]

end Reply

/-! ### Timelines -/

/-- A session in time. -/
structure Timeline where
  launch : Reply Unit
  handshake : Reply (Option Text)
  /-- The reply to reading an event, for each event counted from zero. -/
  event : Nat → Reply Event

namespace Timeline

/-- When the first line arrives. -/
def opening (t : Timeline) : ℕ∞ := t.launch.delay + t.handshake.delay

/-- When the first `n` events have arrived. -/
def arrival (t : Timeline) : Nat → ℕ∞
  | 0 => t.opening
  | n + 1 => t.arrival n + (t.event n).delay

@[simp] theorem arrival_zero (t : Timeline) : t.arrival 0 = t.opening := rfl

@[simp] theorem arrival_succ (t : Timeline) (n : Nat) :
    t.arrival (n + 1) = t.arrival n + (t.event n).delay := rfl

/-- Whether the first line comes in time. -/
def OpensInTime (t : Timeline) (budget : Nat) : Prop :=
  t.handshake.InTime budget t.launch.delay

/-- The first line is there and says that the input was compiled. -/
def Compiles (t : Timeline) : Prop :=
  ∃ d line, t.handshake = .after d (.ok (some line)) ∧
    Supervisor.compileMark <:+: line ∧ Supervisor.okMark <:+: line

theorem Compiles.succeeds {t : Timeline} (h : t.Compiles) : t.handshake.Succeeds := by
  obtain ⟨d, line, hline, _⟩ := h
  exact ⟨d, some line, hline⟩

/-- The events that a run with a given budget consumes: all events before such an event are consumed
    lines that decide nothing, it is asked for before the deadline and arrives by then. -/
inductive Consumed (t : Timeline) (c : Classifier) (budget : Nat) : Nat → Prop
  | intro {n : Nat} (before : ∀ j < n, Consumed t c budget j)
      (passed : ∀ j < n, (t.event j).Passes c) (asked : t.arrival n < budget)
      (arrived : t.arrival (n + 1) ≤ budget) : Consumed t c budget n

/-- The events that a run with a given budget asks for: all events before such an event are consumed
    lines that decide nothing, and the deadline is still to come when the last of them has
    arrived. -/
def Asked (t : Timeline) (c : Classifier) (budget : Nat) (n : Nat) : Prop :=
  (∀ j < n, t.Consumed c budget j ∧ (t.event j).Passes c) ∧ t.arrival n < budget

/-- What the result of a run with a given budget has to be once its child was launched. -/
inductive Verdict (t : Timeline) (c : Classifier) (budget : Nat) : RunResult → Prop
  | unopened (late : ¬ t.OpensInTime budget) : Verdict t c budget (.ofStatus .timeout .empty)
  | rejected (opened : t.OpensInTime budget) (bad : ¬ t.Compiles) :
      Verdict t c budget (.ofStatus .error .empty)
  /-- The budget runs out before anything decides. -/
  | undecided (opened : t.OpensInTime budget) (good : t.Compiles)
      (none : ∀ n, t.Consumed c budget n → (t.event n).status? c = none) :
      Verdict t c budget (.ofStatus .timeout .empty)
  /-- A consumed event decides. -/
  | decided {n : Nat} {s : RunStatus} {fs : FindingSet} (opened : t.OpensInTime budget)
      (good : t.Compiles) (consumed : t.Consumed c budget n)
      (status : (t.event n).status? c = some s)
      (findings : ∀ f, f ∈ fs ↔ ∃ j ≤ n, f ∈ (t.event j).findings c) :
      Verdict t c budget (.ofStatus s fs)

theorem Consumed.of_lt {t : Timeline} {c : Classifier} {budget n m : Nat}
    (h : t.Consumed c budget n) (hlt : m < n) : t.Consumed c budget m ∧ (t.event m).Passes c := by
  cases h with
  | intro before passed _ _ => exact ⟨before m hlt, passed m hlt⟩

theorem Consumed.inTime {t : Timeline} {c : Classifier} {budget n : Nat}
    (h : t.Consumed c budget n) : t.arrival n < budget ∧ t.arrival (n + 1) ≤ budget := by
  cases h with
  | intro _ _ asked arrived => exact ⟨asked, arrived⟩

theorem Consumed.asked {t : Timeline} {c : Classifier} {budget n : Nat}
    (h : t.Consumed c budget n) : t.Asked c budget n :=
  ⟨fun _ hj => h.of_lt hj, h.inTime.1⟩

/-- Only the last consumed event can decide. -/
theorem Consumed.le_of_status {t : Timeline} {c : Classifier} {budget n m : Nat} {s : RunStatus}
    (hn : t.Consumed c budget n) (hm : (t.event m).status? c = some s) : n ≤ m := by
  by_contra hlt
  have hnone := (hn.of_lt (Nat.lt_of_not_le hlt)).2.status?_eq
  rw [hm] at hnone
  cases hnone

/-- A timeline leaves no choice of the result. -/
theorem Verdict.unique {t : Timeline} {c : Classifier} {budget : Nat} {v v' : RunResult}
    (h : t.Verdict c budget v) (h' : t.Verdict c budget v') : v = v' := by
  cases h with
  | unopened late =>
    cases h' with
    | unopened _ => rfl
    | rejected opened _ => exact absurd opened late
    | undecided opened _ _ => exact absurd opened late
    | decided opened _ _ _ _ => exact absurd opened late
  | rejected opened bad =>
    cases h' with
    | unopened late => exact absurd opened late
    | rejected _ _ => rfl
    | undecided _ good _ => exact absurd good bad
    | decided _ good _ _ _ => exact absurd good bad
  | undecided opened good none =>
    cases h' with
    | unopened late => exact absurd opened late
    | rejected _ bad => exact absurd good bad
    | undecided _ _ _ => rfl
    | decided _ _ consumed status _ =>
      rw [none _ consumed] at status
      cases status
  | @decided n s fs opened good consumed status findings =>
    cases h' with
    | unopened late => exact absurd opened late
    | rejected _ bad => exact absurd good bad
    | undecided _ _ none =>
      rw [none _ consumed] at status
      cases status
    | @decided m s' fs' _ _ consumed' status' findings' =>
      have hnm : n = m :=
        le_antisymm (consumed.le_of_status status') (consumed'.le_of_status status)
      subst hnm
      rw [status] at status'
      cases status'
      have hfs : fs = fs' := FindingSet.ext fun f => (findings f).trans (findings' f).symm
      rw [hfs]

/-- The first event that decides fixes the verdict. -/
theorem Verdict.eq_of_status {t : Timeline} {c : Classifier} {budget n : Nat}
    {v : RunResult} {s : RunStatus} (h : t.Verdict c budget v) (opened : t.OpensInTime budget)
    (good : t.Compiles) (consumed : t.Consumed c budget n)
    (status : (t.event n).status? c = some s) :
    ∃ fs, v = .ofStatus s fs ∧ ∀ f, f ∈ fs ↔ ∃ j ≤ n, f ∈ (t.event j).findings c := by
  cases h with
  | unopened late => exact absurd opened late
  | rejected _ bad => exact absurd good bad
  | undecided _ _ none =>
    rw [none n consumed] at status
    cases status
  | @decided m s' fs _ _ consumed' status' findings =>
    have hnm : m = n := le_antisymm (consumed'.le_of_status status) (consumed.le_of_status status')
    subst hnm
    rw [status] at status'
    cases status'
    exact ⟨fs, rfl, findings⟩

end Timeline

/-! ### Timelines of hosts and scripts -/

namespace Host

variable {σ : Type} (host : Host σ)

/-- The world after `n` events were read. -/
def afterEvents (w : σ) (n : Nat) : σ := (fun w => (host.nextEvent w).2)^[n] w

@[simp] theorem afterEvents_zero (w : σ) : host.afterEvents w 0 = w := rfl

theorem afterEvents_succ (w : σ) (n : Nat) :
    host.afterEvents w (n + 1) = (host.nextEvent (host.afterEvents w n)).2 :=
  Function.iterate_succ_apply' _ n w

/-- The world when the child was launched. -/
def launched (i : Invocation) (w : σ) : σ := (host.launch i w).2

/-- The world when the first line was read too. -/
def opened (i : Invocation) (w : σ) : σ := (host.handshake (host.launched i w)).2

/-- The timeline of the session that a host starts for an invocation. -/
def timeline (i : Invocation) (w : σ) : Timeline where
  launch := (host.launch i w).1
  handshake := (host.handshake (host.launched i w)).1
  event n := (host.nextEvent (host.afterEvents (host.opened i w) n)).1

end Host

namespace Script

/-- The timeline that a script fixes. -/
def timeline (s : Script) : Timeline where
  launch := s.launch
  handshake := s.handshake
  event n := s.events[n]?.getD (.now (.exited (some 0)))

/-- Reading an event does not change how the kill goes. -/
theorem kill_nextEvent (s : Script) : s.nextEvent.2.kill = s.kill := by
  unfold nextEvent
  cases s.events <;> rfl

theorem afterEvents_host (id : Nat) (s : Script) (n : Nat) :
    (host id).afterEvents s n = { s with events := s.events.drop n } := by
  induction n with
  | zero => rfl
  | succ n ih =>
    rw [Host.afterEvents_succ, ih]
    change (nextEvent { s with events := s.events.drop n }).2 = _
    unfold nextEvent
    cases h : s.events.drop n with
    | nil =>
      have : s.events.drop (n + 1) = [] := by
        rw [← List.drop_drop, h, List.drop_nil]
      simp [this]
    | cons r rest =>
      have : s.events.drop (n + 1) = rest := by
        rw [← List.drop_drop, h, List.drop_succ_cons, List.drop_zero]
      simp [this]

/-- A child that follows a script has its timeline. -/
theorem timeline_host (id : Nat) (i : Invocation) (s : Script) :
    (host id).timeline i s = s.timeline := by
  have hevent : ∀ n, ((host id).timeline i s).event n = s.timeline.event n := by
    intro n
    change (nextEvent ((host id).afterEvents s n)).1 = s.events[n]?.getD (.now (.exited (some 0)))
    rw [afterEvents_host]
    unfold nextEvent
    cases h : s.events.drop n with
    | nil =>
      have hn : s.events[n]? = none := List.getElem?_eq_none (List.drop_eq_nil_iff.1 h)
      simp [hn]
    | cons r rest =>
      have hn : s.events[n]? = some r := by
        rw [← List.head?_drop, h, List.head?_cons]
      simp [hn]
  unfold timeline
  simp only [Host.timeline, Timeline.mk.injEq]
  exact ⟨rfl, rfl, funext hevent⟩

end Script

end Overseer
