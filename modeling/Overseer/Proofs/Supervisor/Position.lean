import Overseer.Proofs.Supervisor.Course

/-! ## Where a run is in its session

`ReadTo` says that a run has read the first events of a session, all of them lines that decide
nothing, and nothing else since its child was launched. Reading one more such line keeps it, and so
does any stretch of them; what ends the reading is told from the next event of the timeline. How the
handshake goes is told from the timeline as well. -/

namespace Overseer.Supervisor

open Progress

variable {σ : Type} {host : Host σ} {c : Classifier} {deadline fuel : Nat} {i : Invocation} {w : σ}
  {p q k : Progress σ} {ls : List OutputLine} {ph : Phase} {n : Nat}

/-! ### The handshake -/

theorem acceptsHandshake_iff {line : Option Text} :
    acceptsHandshake line = true ↔
      ∃ l, line = some l ∧ compileMark <:+: l ∧ okMark <:+: l := by
  cases line with
  | none => simp [acceptsHandshake]
  | some l => simp [acceptsHandshake, Text.occursIn_iff]

/-- The run waits for its first line as long as the timeline says. -/
theorem inTime_handshake_iff {d : Nat} (launch : (host.launch i w).1 = .after d (.ok ())) :
    (host.handshake (launched host i w d).world).1.InTime deadline (launched host i w d).clock ↔
      (host.timeline i w).OpensInTime deadline := by
  have hclock : ((launched host i w d).clock : ℕ∞) = (host.timeline i w).launch.delay := by
    change ((0 + d : Nat) : ℕ∞) = (host.launch i w).1.delay
    rw [launch, Nat.zero_add, Reply.delay_after]
  rw [hclock]
  rfl

theorem compiles_iff {d : Nat} {line : Option Text}
    (reply : (host.handshake (host.launched i w)).1 = .after d (.ok line)) :
    (host.timeline i w).Compiles ↔ acceptsHandshake line = true := by
  rw [acceptsHandshake_iff]
  constructor
  · rintro ⟨_, l, hline, hmarks⟩
    cases reply.symm.trans hline
    exact ⟨l, rfl, hmarks⟩
  · rintro ⟨l, rfl, hmarks⟩
    exact ⟨d, l, reply, hmarks⟩

/-! ### The events -/

/-- The run has read the first `n` events of the session. -/
structure ReadTo (host : Host σ) (c : Classifier) (deadline : Nat) (i : Invocation) (w : σ)
    (n : Nat) (p : Progress σ) : Prop where
  world : p.world = host.afterEvents (host.opened i w) n
  clock : (p.clock : ℕ∞) = (host.timeline i w).arrival n
  consumed : ∀ j < n, (host.timeline i w).Consumed c deadline j
  passed : ∀ j < n, ((host.timeline i w).event j).Passes c
  findings : ∀ f, f ∈ p.findings ↔ ∃ j < n, f ∈ ((host.timeline i w).event j).findings c

/-- The next reply that the run gets is the next event of the timeline. -/
theorem ReadTo.event (h : ReadTo host c deadline i w n p) :
    (host.nextEvent p.world).1 = (host.timeline i w).event n := by
  rw [h.world]
  rfl

/-- The next event is consumed exactly if the run asks for it and does not give it up. -/
theorem ReadTo.consumed_iff (h : ReadTo host c deadline i w n p) :
    (host.timeline i w).Consumed c deadline n ↔
      p.clock < deadline ∧ (host.nextEvent p.world).1.InTime deadline p.clock := by
  rw [h.event, Reply.InTime, h.clock]
  constructor
  · intro hc
    obtain ⟨asked, arrived⟩ := hc.inTime
    rw [← h.clock] at asked
    exact ⟨by exact_mod_cast asked, .inr arrived⟩
  · rintro ⟨early, inTime⟩
    have asked : (host.timeline i w).arrival n < deadline := by
      rw [← h.clock]
      exact_mod_cast early
    refine .intro h.consumed h.passed asked ?_
    rw [Timeline.arrival_succ]
    rcases inTime with hzero | hle
    · rw [hzero, add_zero]
      exact asked.le
    · exact hle

/-- Reading one more line that decides nothing. -/
theorem ReadTo.step {d : Nat} {l : OutputLine} (h : ReadTo host c deadline i w n p)
    (early : p.clock < deadline) (reply : (host.nextEvent p.world).1 = .after d (.ok (.line l)))
    (inTime : (host.nextEvent p.world).1.InTime deadline p.clock)
    (signal : c.signal l.text = .none) :
    ReadTo host c deadline i w (n + 1)
      ((p.answer .nextEvent d (host.nextEvent p.world).2).absorb c l) := by
  have hevent : (host.timeline i w).event n = .after d (.ok (.line l)) := h.event ▸ reply
  have hconsumed := h.consumed_iff.2 ⟨early, inTime⟩
  refine ⟨?_, ?_, ?_, ?_, ?_⟩
  · change (host.nextEvent p.world).2 = _
    rw [Host.afterEvents_succ, h.world]
  · change ((p.clock + d : Nat) : ℕ∞) = _
    rw [Timeline.arrival_succ, hevent, Reply.delay_after, ← h.clock, Nat.cast_add]
  · intro j hj
    rcases Nat.lt_succ_iff_lt_or_eq.1 hj with hj | rfl
    · exact h.consumed j hj
    · exact hconsumed
  · intro j hj
    rcases Nat.lt_succ_iff_lt_or_eq.1 hj with hj | rfl
    · exact h.passed j hj
    · exact ⟨d, l, hevent, signal⟩
  · intro f
    change f ∈ p.findings.union (c.classify l.text).findings ↔ _
    rw [FindingSet.mem_union, h.findings, Nat.exists_lt_succ_right, hevent]
    rfl

/-- Reading a stretch of lines that decide nothing. -/
theorem ReadTo.reads (h : ReadTo host c deadline i w n p) (hr : Reads host c deadline p ls q) :
    ReadTo host c deadline i w (n + ls.length) q := by
  induction hr generalizing n with
  | nil => exact h
  | cons early reply inTime signal _ ih =>
    rw [List.length_cons, Nat.add_comm _ 1, ← Nat.add_assoc]
    exact ih (h.step early reply inTime signal)

/-- A run whose handshake was accepted begins to read the events. -/
theorem readTo_opening {d d' : Nat} {line : Option Text} (pid : Option Nat)
    (launch : (host.launch i w).1 = .after d (.ok ()))
    (reply : (host.handshake (host.launched i w)).1 = .after d' (.ok line)) :
    ReadTo host c deadline i w 0
      (opening pid ((compiling (launched host i w d)).answer .handshake d' (host.opened i w))) := by
  refine ⟨rfl, ?_, nofun, nofun, ?_⟩
  · change ((0 + d + d' : Nat) : ℕ∞) =
      (host.launch i w).1.delay + (host.handshake (host.launched i w)).1.delay
    rw [launch, reply, Reply.delay_after, Reply.delay_after, Nat.zero_add, Nat.cast_add]
  · intro f
    change f ∈ FindingSet.empty ↔ _
    simp

/-- What stops the reading is no consumed line that decides nothing. -/
theorem ReadTo.not_passed (h : ReadTo host c deadline i w n p)
    (hstop : Stops host c deadline p ph k) :
    ¬ ((host.timeline i w).Consumed c deadline n ∧ ((host.timeline i w).event n).Passes c) := by
  rintro ⟨hn, d, l, hevent, hs⟩
  obtain ⟨early, inTime⟩ := h.consumed_iff.1 hn
  have hreply := h.event.trans hevent
  cases hstop with
  | late late => exact absurd early (Nat.not_lt.2 late)
  | expired _ overdue => exact overdue inTime
  | failed _ reply _ => cases reply.symm.trans hreply
  | exited _ reply _ => cases reply.symm.trans hreply
  | decided _ reply _ signal =>
    cases reply.symm.trans hreply
    rw [hs] at signal
    cases signal

/-- Where the reading stops, the run asks for the events that it has read, and for the next one if
    the deadline is still to come. -/
theorem ReadTo.asked_iff (h : ReadTo host c deadline i w n p)
    (hstop : Stops host c deadline p ph k) {j : Nat} :
    (host.timeline i w).Asked c deadline j ↔ j < n ∨ j = n ∧ p.clock < deadline := by
  have hclock : (host.timeline i w).arrival n < deadline ↔ p.clock < deadline := by
    rw [← h.clock]
    norm_cast
  constructor
  · rintro ⟨hbefore, hasked⟩
    rcases Nat.lt_trichotomy j n with hlt | rfl | hgt
    · exact .inl hlt
    · exact .inr ⟨rfl, hclock.1 hasked⟩
    · exact absurd (hbefore n hgt) (h.not_passed hstop)
  · rintro (hlt | ⟨rfl, hearly⟩)
    · refine ⟨fun m hm => ?_, (h.consumed j hlt).inTime.1⟩
      exact ⟨h.consumed m (hm.trans hlt), h.passed m (hm.trans hlt)⟩
    · exact ⟨fun m hm => ⟨h.consumed m hm, h.passed m hm⟩, hclock.2 hearly⟩

end Overseer.Supervisor
