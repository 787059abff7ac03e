import Overseer.Proofs.Supervisor.Verdict

/-! ## How long a run takes

Between launch and kill a run never goes past its deadline, unless the launch has gone past it
already: `InBudget` says so of a time of the run, and every call keeps it. A run that times out has
used all of that time. What the kill takes comes on top. -/

namespace Overseer.Supervisor

open Progress

variable {σ : Type} {host : Host σ} {c : Classifier} {deadline fuel clock launch : Nat}
  {i : Invocation} {w : σ} {p q k : Progress σ} {ls : List OutputLine} {ph : Phase}
  {r : RunReport σ}

/-! ### Times between launch and kill -/

/-- The time is not before the launch is over, which took `launch`, and not after both that and the
    deadline. -/
structure InBudget (launch deadline clock : Nat) : Prop where
  launched : launch ≤ clock
  bounded : clock ≤ max launch deadline

/-- An answer in time takes no time or comes by the deadline. -/
theorem InBudget.answer {α : Type} {reply : Reply α} {d : Nat} {a : Except ProcessError α}
    (h : InBudget launch deadline clock) (hreply : reply = .after d a)
    (inTime : reply.InTime deadline clock) : InBudget launch deadline (clock + d) := by
  rw [hreply, Reply.inTime_after] at inTime
  obtain ⟨launched, bounded⟩ := h
  refine ⟨?_, ?_⟩
  · omega
  · omega

/-- Waiting until the deadline uses all the time there is. -/
theorem InBudget.wait (h : InBudget launch deadline clock) :
    max clock deadline = max launch deadline := by
  obtain ⟨launched, bounded⟩ := h
  omega

theorem inBudget_of_eq (h : clock = max launch deadline) : InBudget launch deadline clock := by
  refine ⟨?_, h.le⟩
  rw [h]
  exact le_max_left launch deadline

theorem Reads.inBudget (h : Reads host c deadline p ls q) (hp : InBudget launch deadline p.clock) :
    InBudget launch deadline q.clock := by
  induction h with
  | nil => exact hp
  | cons _ reply inTime _ _ ih => exact ih (hp.answer reply inTime)

/-- A run that ends in a phase has not gone past its budget, and if it timed out it has used all of
    it. -/
structure UsesBudget (launch deadline : Nat) (ph : Phase) (clock : Nat) : Prop where
  inBudget : InBudget launch deadline clock
  exhausted : ph = .timedOut → clock = max launch deadline

theorem usesBudget_of_ne (h : InBudget launch deadline clock) (hph : ph ≠ .timedOut) :
    UsesBudget launch deadline ph clock := ⟨h, fun htimeout => absurd htimeout hph⟩

theorem usesBudget_of_eq (h : clock = max launch deadline) :
    UsesBudget launch deadline ph clock := ⟨inBudget_of_eq h, fun _ => h⟩

/-- No signal is a timeout. -/
theorem ne_timedOut_of_ending? {s : Signal} {line : Text} {record : Record}
    (h : s.ending? line = some (ph, record)) : ph ≠ .timedOut := by
  cases s <;> cases h <;> decide

theorem Stops.usesBudget (h : Stops host c deadline p ph k)
    (hp : InBudget launch deadline p.clock) : UsesBudget launch deadline ph k.clock := by
  cases h with
  | late late => exact usesBudget_of_eq (le_antisymm hp.bounded (max_le hp.launched late))
  | expired _ _ => exact usesBudget_of_eq hp.wait
  | failed _ reply inTime => exact usesBudget_of_ne (hp.answer reply inTime) nofun
  | exited _ reply inTime => exact usesBudget_of_ne (hp.answer reply inTime) nofun
  | decided _ reply inTime signal =>
    exact usesBudget_of_ne (hp.answer reply inTime) (ne_timedOut_of_ending? signal)

/-- Draining what is left keeps to the budget too. -/
theorem inBudget_noteRest (hp : InBudget launch deadline p.clock) :
    InBudget launch deadline (noteRest host deadline p).clock := by
  unfold noteRest
  rcases (host.drain p.world).1.overdue_or_answers deadline p.clock with
    overdue | ⟨d, a, reply, inTime⟩
  · rw [callWithin_overdue overdue]
    exact inBudget_of_eq hp.wait
  · rw [callWithin_answered reply inTime]
    have hdrained : InBudget launch deadline (p.clock + d) := hp.answer reply inTime
    match a with
    | .error e => exact hdrained
    | .ok lines =>
      change InBudget launch deadline (Progress.noteLeftovers lines _).clock
      rw [noteLeftovers_eq]
      exact hdrained

theorem Supervises.usesBudget (h : Supervises host c deadline fuel p ph k)
    (hp : InBudget launch deadline p.clock) : UsesBudget launch deadline ph k.clock := by
  cases h with
  | unopened _ => exact usesBudget_of_eq hp.wait
  | failed reply inTime => exact usesBudget_of_ne (hp.answer reply inTime) nofun
  | @rejected d line reply inTime _ =>
    have hread : InBudget launch deadline
        (((compiling p).answer .handshake d (host.handshake p.world).2).note
          (.handshakeRejected line)).clock := hp.answer reply inTime
    exact usesBudget_of_ne (inBudget_noteRest hread) nofun
  | @streamed d _ _ _ _ _ reply inTime _ _ reads stops =>
    have hopening : InBudget launch deadline
        (opening (host.pid (host.handshake p.world).2)
          ((compiling p).answer .handshake d (host.handshake p.world).2)).clock :=
      hp.answer reply inTime
    exact stops.usesBudget (reads.inBudget hopening)

/-! ### Whole runs -/

theorem clock_killed (d : Nat) (a : Except ProcessError Unit) (w : σ) :
    (killed host d a w p).clock = p.clock + d := by
  cases a <;> rfl

/-- Only a run that ends in the phase of timeouts has timed out. -/
theorem eq_timedOut_of_status (h : (resultIn ph p).status = .timeout) : ph = .timedOut := by
  unfold resultIn at h
  rw [RunResult.status_ofStatus] at h
  cases ph with
  | timedOut => rfl
  | _ => cases h

/-- What a run takes whose launch took `launch`: at most the larger of that and its budget, and what
    the kill takes. -/
theorem Runs.elapsed (h : Runs host c fuel i w r)
    (hlaunch : (host.launch i w).1 = .after launch (.ok ())) :
    ∃ v ph k d a, Supervises host c i.budget fuel (launched host i w launch) ph k ∧
      (host.kill k.world).1 = .after d a ∧ r.result = .ok v ∧
      r.elapsed ≤ max launch i.budget + d ∧
      (v.status = .timeout → r.elapsed = max launch i.budget + d) := by
  cases h with
  | unlaunched reply => cases hlaunch.symm.trans reply
  | @supervised d d' a ph k reply course kill =>
    cases hlaunch.symm.trans reply
    have hbegun : InBudget launch i.budget (launched host i w launch).clock := by
      change InBudget launch i.budget (0 + launch)
      rw [Nat.zero_add]
      exact ⟨le_rfl, le_max_left launch i.budget⟩
    have huses := course.usesBudget hbegun
    have helapsed : (report ⟨.ok (resultIn ph k), finished (resultIn ph k)
        (killed host d' a (host.kill k.world).2 (k.move ph))⟩).elapsed = k.clock + d' :=
      clock_killed d' a _
    refine ⟨resultIn ph k, ph, k, d', a, course, kill, rfl, ?_, fun htimeout => ?_⟩
    · rw [helapsed]
      exact Nat.add_le_add_right huses.inBudget.bounded d'
    · rw [helapsed, huses.exhausted (eq_timedOut_of_status htimeout)]

/-- A run that comes to an end had a deadline that clocks can show. -/
theorem lt_clockEnd_of_finished (h : run host c clock fuel i w = .finished r) :
    clock + i.budget < clockEnd :=
  (run_eq_finished_iff.1 h).1

/-- A run over a script whose launch takes `L` and whose kill takes `K` comes to an end exactly if
    clocks can show its deadline. It takes at most the larger of `L` and its budget, and then `K`;
    a run that times out takes exactly that. -/
theorem run_script_elapsed (id clock fuel : Nat) (c : Classifier) (i : Invocation) (s : Script)
    {L K : Nat} {killed : Except ProcessError Unit} (enough : s.events.length < fuel)
    (launch : s.launch = .after L (.ok ())) (kill : s.kill = .after K killed) :
    (∃ r v, run (Script.host id) c clock fuel i s = .finished r ∧ r.result = .ok v ∧
      r.elapsed ≤ max L i.budget + K ∧
      (v.status = .timeout → r.elapsed = max L i.budget + K)) ↔
    clock + i.budget < clockEnd := by
  constructor
  · rintro ⟨r, v, hrun, -⟩
    exact lt_clockEnd_of_finished hrun
  · intro noOverflow
    have hnever : s.kill ≠ .never := by
      rw [kill]
      nofun
    have hends : ∃ r, run (Script.host id) c clock fuel i s = .finished r :=
      exists_run_script noOverflow enough ⟨L, (), launch⟩ hnever
    obtain ⟨r, hrun⟩ := hends
    obtain ⟨v, ph, k, d, a, course, hkill, hresult, hbound, htimeout⟩ :=
      (run_eq_finished_iff.1 hrun).2.elapsed launch
    have hscript : ((Script.host id).kill k.world).1 = s.kill := course.kill_script rfl
    cases (hscript.trans kill).symm.trans hkill
    exact ⟨r, v, hrun, hresult, hbound, htimeout⟩

/-- A child that prints on and on until its time is over. -/
theorem run_script_elapsed_flood :
    let s : Script := ⟨.after 3 (.ok ()),
      .after 2 (.ok (some "Trying to compile a.c ... OK".toList)),
      [.now (.line ⟨.stdout, "1".toList⟩), .now (.line ⟨.stdout, "2".toList⟩), .never], .never,
      .after 5 (.ok ())⟩
    (s.events.length < 4 ∧ s.launch = .after 3 (.ok ()) ∧ s.kill = .after 5 (.ok ())) ∧
      ((∃ r v, run (Script.host 7) .builtin 0 4 ⟨"slllvm".toList, [], [], 10⟩ s = .finished r ∧
        r.result = .ok v ∧ r.elapsed ≤ max 3 10 + 5 ∧
        (v.status = .timeout → r.elapsed = max 3 10 + 5)) ↔ 0 + 10 < clockEnd) := by
  intro s
  have enough : s.events.length < 4 := by decide
  exact ⟨⟨enough, rfl, rfl⟩,
    run_script_elapsed 7 0 4 .builtin ⟨"slllvm".toList, [], [], 10⟩ s enough rfl rfl⟩

/-- A child that is done at once, with the largest 64-bit number of seconds as its budget: the run
    does not come to an end, since its deadline is later than clocks can show. -/
theorem not_run_script_elapsed_longest :
    let s : Script := ⟨.after 3 (.ok ()),
      .now (some "Trying to compile a.c ... OK".toList),
      [.now (.line ⟨.stdout, "clEasyRun() took 1 s".toList⟩)], .now [], .after 5 (.ok ())⟩
    ¬ ∃ r v, run (Script.host 7) .builtin 0 2
        ⟨"slllvm".toList, [], [0x66, 0x6F, 0x6F, 0x2E, 0x62, 0x63], 1000 * 0xFFFFFFFFFFFFFFFF⟩ s =
          .finished r ∧
      r.result = .ok v ∧ r.elapsed ≤ max 3 (1000 * 0xFFFFFFFFFFFFFFFF) + 5 := by
  rintro s ⟨r, v, hrun, -⟩
  have hshown : 0 + 1000 * 0xFFFFFFFFFFFFFFFF < clockEnd := lt_clockEnd_of_finished hrun
  exact absurd hshown (by decide)

end Overseer.Supervisor
