import Mathlib.Data.List.Forall2
import Overseer.Proofs.Session.Timeline

/-! ## Timelines compared

What a larger budget and other incidental data do to the verdict of a timeline. A larger budget keeps
every verdict but a timeout. The stream of a line, the code of an exit and the cause of a failure are
read by no verdict at all. -/

namespace Overseer

/-! ### Larger budgets -/

theorem Reply.InTime.mono {α : Type} {r : Reply α} {start : ℕ∞} {deadline later : Nat}
    (h : r.InTime deadline start) (hle : deadline ≤ later) : r.InTime later start :=
  h.imp_right fun harrived => harrived.trans (Nat.cast_le.2 hle)

namespace Timeline

variable {t t' : Timeline} {c : Classifier} {budget larger n : Nat} {v : RunResult}

theorem Consumed.mono (h : t.Consumed c budget n) (hle : budget ≤ larger) :
    t.Consumed c larger n := by
  have hcast : (budget : ℕ∞) ≤ larger := Nat.cast_le.2 hle
  induction h with
  | intro _ passed asked arrived ih =>
    exact .intro ih passed (asked.trans_le hcast) (arrived.trans hcast)

/-- What was decided within a budget is decided in the same way within a larger one. -/
theorem Verdict.mono (h : t.Verdict c budget v) (decided : v.status ≠ .timeout)
    (hle : budget ≤ larger) : t.Verdict c larger v := by
  cases h with
  | unopened _ => exact absurd rfl decided
  | rejected opened bad => exact .rejected (opened.mono hle) bad
  | undecided _ _ _ => exact absurd rfl decided
  | decided opened good consumed status findings =>
    exact .decided (opened.mono hle) good (consumed.mono hle) status findings

end Timeline

/-! ### Incidental data -/

/-- Events that differ at most in the stream of a line or in the code of an exit. -/
inductive Event.Alike : Event → Event → Prop
  | line {l l' : OutputLine} (text : l'.text = l.text) : Alike (.line l) (.line l')
  | exited {code code' : Option Int} : Alike (.exited code) (.exited code')

theorem Event.Alike.symm {e e' : Event} (h : e.Alike e') : e'.Alike e := by
  cases h with
  | line text => exact .line text.symm
  | exited => exact .exited

namespace Reply

/-- Replies that take equally long and that both fail, or both answer and `R` relates the answers. -/
inductive Alike {α : Type} (R : α → α → Prop) : Reply α → Reply α → Prop
  | never : Alike R .never .never
  | failed {d : Nat} {e e' : ProcessError} : Alike R (.after d (.error e)) (.after d (.error e'))
  | answered {d : Nat} {a a' : α} (answers : R a a') :
      Alike R (.after d (.ok a)) (.after d (.ok a'))

namespace Alike

variable {α : Type} {R : α → α → Prop} {r r' : Reply α}

theorem symm (hR : ∀ a a', R a a' → R a' a) (h : r.Alike R r') : r'.Alike R r := by
  cases h with
  | never => exact .never
  | failed => exact .failed
  | answered answers => exact .answered (hR _ _ answers)

theorem delay_eq (h : r.Alike R r') : r'.delay = r.delay := by
  cases h <;> rfl

theorem inTime_iff {deadline : Nat} {start : ℕ∞} (h : r.Alike R r') :
    r'.InTime deadline start ↔ r.InTime deadline start := by
  unfold InTime
  rw [h.delay_eq]

theorem succeeds (h : r.Alike R r') (hr : r.Succeeds) : r'.Succeeds := by
  obtain ⟨d, a, hr⟩ := hr
  cases h with
  | never => cases hr
  | failed => cases hr
  | answered _ => exact ⟨_, _, rfl⟩

theorem fails (h : r.Alike R r') (hr : r.Fails) : r'.Fails := by
  obtain ⟨d, e, hr⟩ := hr
  cases h with
  | never => cases hr
  | failed => exact ⟨_, _, rfl⟩
  | answered _ => cases hr

/-- A call that answers is alike only to one that gives a related answer. -/
theorem eq_answered {d : Nat} {a : α} (h : r.Alike R r') (hr : r = .after d (.ok a)) :
    ∃ a', r' = .after d (.ok a') ∧ R a a' := by
  cases h with
  | never => cases hr
  | failed => cases hr
  | answered answers =>
    cases hr
    exact ⟨_, rfl, answers⟩

variable {e e' : Reply Event} {c : Classifier}

theorem passes (h : e.Alike Event.Alike e') (he : e.Passes c) : e'.Passes c := by
  obtain ⟨d, l, he, signal⟩ := he
  obtain ⟨_, he', hline⟩ := h.eq_answered he
  cases hline with
  | @line _ l' text => exact ⟨d, l', he', text ▸ signal⟩

theorem status?_eq (h : e.Alike Event.Alike e') : e'.status? c = e.status? c := by
  cases h with
  | never => rfl
  | failed => rfl
  | answered answers =>
    cases answers with
    | line text => simp only [status?, text]
    | exited => rfl

theorem findings_eq (h : e.Alike Event.Alike e') : e'.findings c = e.findings c := by
  cases h with
  | never => rfl
  | failed => rfl
  | answered answers =>
    cases answers with
    | line text => simp only [findings, text]
    | exited => rfl

end Alike

end Reply

namespace Timeline

/-- Timelines that differ at most in incidental data: the streams of lines, the codes of exits and
    the causes of failures. -/
structure Alike (t t' : Timeline) : Prop where
  launch : t.launch.Alike Eq t'.launch
  handshake : t.handshake.Alike Eq t'.handshake
  event : ∀ n, (t.event n).Alike Event.Alike (t'.event n)

namespace Alike

variable {t t' : Timeline} {c : Classifier} {budget n : Nat} {v : RunResult}

theorem symm (h : t.Alike t') : t'.Alike t where
  launch := h.launch.symm fun _ _ => Eq.symm
  handshake := h.handshake.symm fun _ _ => Eq.symm
  event n := (h.event n).symm fun _ _ => Event.Alike.symm

theorem arrival_eq (h : t.Alike t') (n : Nat) : t'.arrival n = t.arrival n := by
  induction n with
  | zero =>
    simp only [arrival_zero, opening]
    rw [h.launch.delay_eq, h.handshake.delay_eq]
  | succ n ih => rw [arrival_succ, arrival_succ, ih, (h.event n).delay_eq]

theorem opensInTime_iff (h : t.Alike t') : t'.OpensInTime budget ↔ t.OpensInTime budget := by
  unfold OpensInTime
  rw [h.launch.delay_eq]
  exact h.handshake.inTime_iff

theorem compiles (h : t.Alike t') (ht : t.Compiles) : t'.Compiles := by
  obtain ⟨d, line, hline, marks⟩ := ht
  obtain ⟨_, hline', rfl⟩ := h.handshake.eq_answered hline
  exact ⟨d, line, hline', marks⟩

theorem consumed (h : t.Alike t') (ht : t.Consumed c budget n) : t'.Consumed c budget n := by
  induction ht with
  | @intro n _ passed asked arrived ih =>
    refine .intro ih (fun j hj => (h.event j).passes (passed j hj)) ?_ ?_
    · rwa [h.arrival_eq]
    · rwa [h.arrival_eq]

/-- No incidental data is read by a verdict. -/
theorem verdict (h : t.Alike t') (ht : t.Verdict c budget v) : t'.Verdict c budget v := by
  cases ht with
  | unopened late => exact .unopened fun opened => late (h.opensInTime_iff.1 opened)
  | rejected opened bad =>
    exact .rejected (h.opensInTime_iff.2 opened) fun good => bad (h.symm.compiles good)
  | undecided opened good none =>
    refine .undecided (h.opensInTime_iff.2 opened) (h.compiles good) fun n hn => ?_
    rw [(h.event n).status?_eq]
    exact none n (h.symm.consumed hn)
  | @decided n s fs opened good consumed status findings =>
    refine .decided (n := n) (h.opensInTime_iff.2 opened) (h.compiles good) (h.consumed consumed)
      ?_ fun f => ?_
    · rw [(h.event n).status?_eq]
      exact status
    · simp only [(h.event _).findings_eq]
      exact findings f

end Alike

end Timeline

/-- Scripts that differ at most in incidental data and in what cleaning up is like: draining what is
    left of a rejected child's output and killing it. -/
structure Script.Alike (s s' : Script) : Prop where
  launch : s.launch.Alike Eq s'.launch
  handshake : s.handshake.Alike Eq s'.handshake
  events : List.Forall₂ (Reply.Alike Event.Alike) s.events s'.events

/-- After events that are alike comes an event that is alike, also when the child is gone. -/
theorem Script.alike_next {es es' : List (Reply Event)}
    (h : List.Forall₂ (Reply.Alike Event.Alike) es es') (n : Nat) :
    Reply.Alike Event.Alike (es[n]?.getD (.now (.exited (some 0))))
      (es'[n]?.getD (.now (.exited (some 0)))) := by
  induction h generalizing n with
  | nil => exact .answered .exited
  | cons reply _ ih =>
    cases n with
    | zero => exact reply
    | succ n => exact ih n

theorem Script.Alike.timeline {s s' : Script} (h : s.Alike s') :
    s.timeline.Alike s'.timeline where
  launch := h.launch
  handshake := h.handshake
  event := alike_next h.events

end Overseer
