import Overseer.Proofs.Supervisor.Progress

/-! ## Reading events

The loop that reads events as two relations: `Reads` is a stretch of lines that decide nothing, and
`Stops` is what ends the reading. `stream_eq_some_iff` says that the loop is one after the other, and
the rest of the module says what a stretch of lines does to each part of a run. -/

namespace Overseer

namespace Signal

/-- The phase that a signal leads to and the record about it. -/
def ending? (line : Text) : Signal → Option (Phase × Record)
  | .none => Option.none
  | .unsupportedFeature => some (.unknown, .unsupportedFeature line)
  | .unclassifiedError => some (.error, .unclassifiedError line)
  | .completion => some (.completed, .completion line)

variable {line : Text} {s : Signal} {ph : Phase} {r : Record}

theorem ending?_eq_none : s.ending? line = .none ↔ s = .none := by
  cases s <;> simp [ending?]

theorem leads_of_ending? (h : s.ending? line = some (ph, r)) : Phase.streaming.Leads ph := by
  cases s with
  | none => cases h
  | unsupportedFeature => cases h; decide
  | completion => cases h; decide
  | unclassifiedError => cases h; decide

/-- The phase that a signal leads to has the status that it gives. -/
theorem status?_of_ending? (h : s.ending? line = some (ph, r)) :
    s.status? = some (ph.status?.getD .error) := by
  cases s with
  | none => cases h
  | unsupportedFeature => cases h; rfl
  | completion => cases h; rfl
  | unclassifiedError => cases h; rfl

end Signal

namespace Supervisor

open Progress

variable {σ : Type}

section

variable (host : Host σ) (c : Classifier) (deadline : Nat)

/-- Reading lines that decide nothing, each asked for before the deadline and read in time. -/
inductive Reads : Progress σ → List OutputLine → Progress σ → Prop
  | nil {p : Progress σ} : Reads p [] p
  | cons {p q : Progress σ} {d : Nat} {l : OutputLine} {ls : List OutputLine}
      (early : p.clock < deadline) (reply : (host.nextEvent p.world).1 = .after d (.ok (.line l)))
      (inTime : (host.nextEvent p.world).1.InTime deadline p.clock)
      (signal : c.signal l.text = .none)
      (rest : Reads ((p.answer .nextEvent d (host.nextEvent p.world).2).absorb c l) ls q) :
      Reads p (l :: ls) q

/-- What ends the reading: the phase that comes next and the run right before it. -/
inductive Stops (p : Progress σ) : Phase → Progress σ → Prop
  | late (late : deadline ≤ p.clock) : Stops p .timedOut (p.note .timeout)
  | expired (early : p.clock < deadline)
      (overdue : ¬ (host.nextEvent p.world).1.InTime deadline p.clock) :
      Stops p .timedOut ((p.giveUp .nextEvent deadline).note .timeout)
  | failed {d : Nat} {e : ProcessError} (early : p.clock < deadline)
      (reply : (host.nextEvent p.world).1 = .after d (.error e))
      (inTime : (host.nextEvent p.world).1.InTime deadline p.clock) :
      Stops p .error ((p.answer .nextEvent d (host.nextEvent p.world).2).note (.readFailed e))
  | exited {d : Nat} {code : Option Int} (early : p.clock < deadline)
      (reply : (host.nextEvent p.world).1 = .after d (.ok (.exited code)))
      (inTime : (host.nextEvent p.world).1.InTime deadline p.clock) :
      Stops p .error ((p.answer .nextEvent d (host.nextEvent p.world).2).note (.exited code))
  | decided {d : Nat} {l : OutputLine} {q : Phase} {r : Record} (early : p.clock < deadline)
      (reply : (host.nextEvent p.world).1 = .after d (.ok (.line l)))
      (inTime : (host.nextEvent p.world).1.InTime deadline p.clock)
      (signal : (c.signal l.text).ending? l.text = some (q, r)) :
      Stops p q (((p.answer .nextEvent d (host.nextEvent p.world).2).absorb c l).note r)

end

variable {host : Host σ} {c : Classifier} {deadline : Nat} {p q k : Progress σ}
  {ls : List OutputLine} {ph : Phase}

/-! ### The loop -/

/-- The loop on a line that came in time. -/
theorem stream_line {fuel d : Nat} {l : OutputLine} (early : p.clock < deadline)
    (reply : (host.nextEvent p.world).1 = .after d (.ok (.line l)))
    (inTime : (host.nextEvent p.world).1.InTime deadline p.clock) :
    stream host c deadline (fuel + 1) p =
      match (c.signal l.text).ending? l.text with
      | none =>
        stream host c deadline fuel ((p.answer .nextEvent d (host.nextEvent p.world).2).absorb c l)
      | some (q, r) =>
        some (conclude q
          (((p.answer .nextEvent d (host.nextEvent p.world).2).absorb c l).note r)) := by
  have hcall := callWithin_answered (k := .nextEvent) reply inTime
  simp only [stream, Nat.not_le.2 early, if_false, hcall, Classifier.signal]
  cases Signal.detect l.text (c.classify l.text) <;> rfl

theorem stream_of_stops {fuel : Nat} (h : Stops host c deadline p ph k) :
    stream host c deadline (fuel + 1) p = some (conclude ph k) := by
  cases h with
  | late late => simp [stream, late]
  | expired early overdue =>
    have hcall := callWithin_overdue (k := .nextEvent) overdue
    simp [stream, Nat.not_le.2 early, hcall]
  | failed early reply inTime =>
    have hcall := callWithin_answered (k := .nextEvent) reply inTime
    simp [stream, Nat.not_le.2 early, hcall]
  | exited early reply inTime =>
    have hcall := callWithin_answered (k := .nextEvent) reply inTime
    simp [stream, Nat.not_le.2 early, hcall]
  | decided early reply inTime signal =>
    rw [stream_line early reply inTime, signal]

/-- At every place the loop reads a line that decides nothing or stops. -/
theorem stops_or_reads (host : Host σ) (c : Classifier) (deadline : Nat) (p : Progress σ) :
    (∃ ph k, Stops host c deadline p ph k) ∨
      ∃ d l, p.clock < deadline ∧ (host.nextEvent p.world).1 = .after d (.ok (.line l)) ∧
        (host.nextEvent p.world).1.InTime deadline p.clock ∧ c.signal l.text = .none := by
  by_cases hlate : deadline ≤ p.clock
  · exact .inl ⟨_, _, .late hlate⟩
  have early := Nat.lt_of_not_le hlate
  rcases (host.nextEvent p.world).1.overdue_or_answers deadline p.clock with
    overdue | ⟨d, a, hr, hin⟩
  · exact .inl ⟨_, _, .expired early overdue⟩
  match a, hr with
  | .error e, hr => exact .inl ⟨_, _, .failed early hr hin⟩
  | .ok (.exited code), hr => exact .inl ⟨_, _, .exited early hr hin⟩
  | .ok (.line l), hr =>
    cases hs : (c.signal l.text).ending? l.text with
    | none => exact .inr ⟨d, l, early, hr, hin, Signal.ending?_eq_none.1 hs⟩
    | some qr => exact .inl ⟨_, _, .decided early hr hin hs⟩

/-- The loop reads lines that decide nothing, fewer than its bound, and then stops. -/
theorem stream_eq_some_iff {fuel : Nat} {e : Ending σ} :
    stream host c deadline fuel p = some e ↔
      ∃ ls q ph k, ls.length < fuel ∧ Reads host c deadline p ls q ∧
        Stops host c deadline q ph k ∧ e = conclude ph k := by
  constructor
  · intro h
    induction fuel generalizing p with
    | zero => cases h
    | succ fuel ih =>
      rcases stops_or_reads host c deadline p with ⟨ph, k, hstop⟩ | ⟨d, l, early, reply, inTime, hs⟩
      · rw [stream_of_stops hstop] at h
        cases h
        exact ⟨[], p, ph, k, Nat.succ_pos _, .nil, hstop, rfl⟩
      · rw [stream_line early reply inTime, Signal.ending?_eq_none.2 hs] at h
        obtain ⟨ls, q, ph, k, hlen, hreads, hstop, he⟩ := ih h
        have hcons := Reads.cons early reply inTime hs hreads
        exact ⟨l :: ls, q, ph, k, Nat.succ_lt_succ hlen, hcons, hstop, he⟩
  · rintro ⟨ls, q, ph, k, hlen, hreads, hstop, rfl⟩
    induction hreads generalizing fuel with
    | nil =>
      obtain ⟨fuel, rfl⟩ := Nat.exists_eq_succ_of_ne_zero (Nat.ne_of_gt hlen)
      exact stream_of_stops hstop
    | cons early reply inTime signal _ ih =>
      obtain ⟨fuel, rfl⟩ := Nat.exists_eq_succ_of_ne_zero (Nat.ne_of_gt (Nat.zero_lt_of_lt hlen))
      rw [stream_line early reply inTime, Signal.ending?_eq_none.2 signal]
      exact ih (Nat.lt_of_succ_lt_succ hlen) hstop

/-! ### What reading does to a run -/

theorem Reads.phase (h : Reads host c deadline p ls q) : q.phase = p.phase := by
  induction h with
  | nil => rfl
  | cons _ _ _ _ _ ih => exact ih

theorem Reads.calls (h : Reads host c deadline p ls q) :
    q.calls = List.replicate ls.length .nextEvent ++ p.calls := by
  induction h with
  | nil => rfl
  | cons _ _ _ _ _ ih =>
    rw [ih, List.length_cons, List.replicate_succ', List.append_assoc]
    rfl

/-- What holds of a world and of every world that reading an event makes of it holds to the end. -/
theorem Reads.world {I : σ → Prop} (next : ∀ w, I w → I (host.nextEvent w).2)
    (h : Reads host c deadline p ls q) (hp : I p.world) : I q.world := by
  induction h with
  | nil => exact hp
  | cons _ _ _ _ _ ih => exact ih (next _ hp)

theorem Stops.world {I : σ → Prop} (next : ∀ w, I w → I (host.nextEvent w).2)
    (h : Stops host c deadline p ph k) (hp : I p.world) : I k.world := by
  cases h with
  | late _ => exact hp
  | expired _ _ => exact hp
  | failed _ _ _ => exact next _ hp
  | exited _ _ _ => exact next _ hp
  | decided _ _ _ _ => exact next _ hp

theorem Stops.phase (h : Stops host c deadline p ph k) : k.phase = p.phase := by
  cases h <;> rfl

/-- What ends the reading asks for one more event, unless the budget is used up before. -/
theorem Stops.calls (h : Stops host c deadline p ph k) :
    (deadline ≤ p.clock ∧ k.calls = p.calls) ∨
      (p.clock < deadline ∧ k.calls = .nextEvent :: p.calls) := by
  cases h with
  | late late => exact .inl ⟨late, rfl⟩
  | expired early => exact .inr ⟨early, rfl⟩
  | failed early => exact .inr ⟨early, rfl⟩
  | exited early => exact .inr ⟨early, rfl⟩
  | decided early => exact .inr ⟨early, rfl⟩

theorem Stops.leads (h : Stops host c deadline p ph k) (hp : p.phase = .streaming) :
    k.phase.Leads ph := by
  rw [h.phase, hp]
  cases h with
  | late _ => decide
  | expired _ _ => decide
  | failed _ _ _ => decide
  | exited _ _ _ => decide
  | decided _ _ _ signal => exact Signal.leads_of_ending? signal

end Supervisor

end Overseer
