import Overseer.Proofs.Supervisor.Position

/-! ## The verdict of a run

The result of a run is the verdict of its timeline: `Timeline.Verdict` speaks of arrival times and of
the first event that decides, and every run whose child was launched comes to it. A run over a script
always comes to an end, so there the verdict is reached and not only kept to. -/

namespace Overseer.Supervisor

open Progress

variable {σ : Type} {host : Host σ} {c : Classifier} {deadline fuel : Nat} {i : Invocation} {w : σ}
  {p k : Progress σ} {ph : Phase} {n : Nat}

/-! ### Streaming -/

/-- If the next event is not consumed, no event decides. -/
theorem ReadTo.undecided (h : ReadTo host c deadline i w n p)
    (hn : ¬ (host.timeline i w).Consumed c deadline n) :
    ∀ m, (host.timeline i w).Consumed c deadline m →
      ((host.timeline i w).event m).status? c = none := by
  intro m hm
  rcases Nat.lt_trichotomy m n with hlt | rfl | hgt
  · exact (h.passed m hlt).status?_eq
  · exact absurd hm hn
  · exact absurd (hm.of_lt hgt).1 hn

/-- If the next event is consumed and decides, it fixes the verdict. -/
theorem ReadTo.decided {s : RunStatus} {fs : FindingSet} (h : ReadTo host c deadline i w n p)
    (opened : (host.timeline i w).OpensInTime deadline) (good : (host.timeline i w).Compiles)
    (hn : (host.timeline i w).Consumed c deadline n)
    (hs : ((host.timeline i w).event n).status? c = some s)
    (hfs : ∀ f, f ∈ fs ↔ f ∈ p.findings ∨ f ∈ ((host.timeline i w).event n).findings c) :
    (host.timeline i w).Verdict c deadline (.ofStatus s fs) := by
  refine .decided opened good hn hs fun f => ?_
  rw [hfs, h.findings]
  simp only [← Nat.lt_succ_iff, Nat.exists_lt_succ_right]

/-- Whatever ends the reading, the result is the verdict. -/
theorem ReadTo.verdict (h : ReadTo host c deadline i w n p)
    (opened : (host.timeline i w).OpensInTime deadline) (good : (host.timeline i w).Compiles)
    (hstop : Stops host c deadline p ph k) :
    (host.timeline i w).Verdict c deadline (resultIn ph k) := by
  cases hstop with
  | late late =>
    refine .undecided opened good (h.undecided fun hn => ?_)
    exact absurd (h.consumed_iff.1 hn).1 (Nat.not_lt.2 late)
  | expired early overdue =>
    refine .undecided opened good (h.undecided fun hn => ?_)
    exact overdue (h.consumed_iff.1 hn).2
  | failed early reply inTime =>
    have hevent := h.event.symm.trans reply
    refine h.decided (s := .error) opened good (h.consumed_iff.2 ⟨early, inTime⟩) ?_ fun f => ?_
    · rw [hevent]; rfl
    · rw [hevent]
      exact (or_iff_left FindingSet.not_mem_empty).symm
  | exited early reply inTime =>
    have hevent := h.event.symm.trans reply
    refine h.decided (s := .error) opened good (h.consumed_iff.2 ⟨early, inTime⟩) ?_ fun f => ?_
    · rw [hevent]; rfl
    · rw [hevent]
      exact (or_iff_left FindingSet.not_mem_empty).symm
  | decided early reply inTime signal =>
    have hevent := h.event.symm.trans reply
    refine h.decided opened good (h.consumed_iff.2 ⟨early, inTime⟩) ?_ fun f => ?_
    · rw [hevent]
      exact Signal.status?_of_ending? signal
    · rw [hevent]
      exact FindingSet.mem_union

/-! ### From launch to kill -/

/-- Whatever happens between launch and kill, the result is the verdict. -/
theorem Supervises.verdict {d : Nat} (launch : (host.launch i w).1 = .after d (.ok ()))
    (h : Supervises host c deadline fuel (launched host i w d) ph k) :
    (host.timeline i w).Verdict c deadline (resultIn ph k) := by
  cases h with
  | unopened overdue =>
    rw [inTime_handshake_iff launch] at overdue
    exact .unopened overdue
  | failed reply inTime =>
    rw [inTime_handshake_iff launch] at inTime
    refine .rejected inTime ?_
    rintro ⟨_, _, hline, _⟩
    cases reply.symm.trans hline
  | rejected reply inTime bad =>
    rw [inTime_handshake_iff launch] at inTime
    refine .rejected inTime ?_
    rw [compiles_iff reply, bad]
    exact Bool.false_ne_true
  | streamed reply inTime good _ reads stops =>
    rw [inTime_handshake_iff launch] at inTime
    exact ((readTo_opening _ launch reply).reads reads).verdict inTime
      ((compiles_iff reply).2 good) stops

/-- The result of every run whose child was launched is the verdict of its timeline. -/
theorem Runs.verdict {r : RunReport σ} (launch : (host.timeline i w).launch.Succeeds)
    (h : Runs host c fuel i w r) :
    ∃ v, r.result = .ok v ∧ (host.timeline i w).Verdict c i.budget v := by
  cases h with
  | unlaunched reply => exact absurd ⟨_, _, reply⟩ launch.not_fails
  | supervised reply course kill => exact ⟨_, rfl, course.verdict reply⟩

/-! ### Runs that come to an end -/

/-- The reading stops at the latest at an event that is not a consumed line that decides nothing. -/
theorem ReadTo.exists_stops {m : Nat} (h : ReadTo host c deadline i w n p) (hnm : n ≤ m)
    (hm : ¬ ((host.timeline i w).Consumed c deadline m ∧ ((host.timeline i w).event m).Passes c)) :
    ∃ ls q ph k, n + ls.length ≤ m ∧ Reads host c deadline p ls q ∧
      Stops host c deadline q ph k := by
  induction hk : m - n generalizing n p with
  | zero =>
    rcases stops_or_reads host c deadline p with ⟨ph, k, hstop⟩ | ⟨d, l, early, reply, inTime, hs⟩
    · exact ⟨[], p, ph, k, hnm, .nil, hstop⟩
    · have hmn : n = m := le_antisymm hnm (Nat.sub_eq_zero_iff_le.1 hk)
      subst hmn
      exact absurd ⟨h.consumed_iff.2 ⟨early, inTime⟩, d, l, h.event ▸ reply, hs⟩ hm
  | succ j ih =>
    rcases stops_or_reads host c deadline p with ⟨ph, k, hstop⟩ | ⟨d, l, early, reply, inTime, hs⟩
    · exact ⟨[], p, ph, k, hnm, .nil, hstop⟩
    · obtain ⟨ls, q, ph, k, hlen, hreads, hstop⟩ :=
        ih (h.step early reply inTime hs) (by omega) (by omega)
      exact ⟨l :: ls, q, ph, k, by rw [List.length_cons]; omega,
        .cons early reply inTime hs hreads, hstop⟩

/-- A run whose launch succeeds comes to its kill if not all events are consumed lines that decide
    nothing. -/
theorem exists_supervises {d : Nat} (launch : (host.launch i w).1 = .after d (.ok ()))
    (hn : ¬ ((host.timeline i w).Consumed c deadline n ∧ ((host.timeline i w).event n).Passes c))
    (hfuel : n < fuel) : ∃ ph k, Supervises host c deadline fuel (launched host i w d) ph k := by
  rcases (host.handshake (host.launched i w)).1.overdue_or_answers deadline
    (launched host i w d).clock with overdue | ⟨d', a, reply, inTime⟩
  · exact ⟨_, _, .unopened overdue⟩
  match a, reply with
  | .error e, reply => exact ⟨_, _, .failed reply inTime⟩
  | .ok line, reply =>
    cases good : acceptsHandshake line with
    | false => exact ⟨_, _, .rejected reply inTime good⟩
    | true =>
      obtain ⟨ls, q, ph, k, hlen, hreads, hstop⟩ :=
        (readTo_opening _ launch reply).exists_stops (Nat.zero_le n) hn
      exact ⟨ph, k, .streamed reply inTime good (by omega) hreads hstop⟩

/-- A run whose launch and kill return comes to an end if not all events are consumed lines that
    decide nothing. -/
theorem exists_run {clock : Nat} (noOverflow : clock + i.budget < clockEnd)
    (launch : (host.launch i w).1 ≠ .never)
    (kill : ∀ {d ph k}, Supervises host c i.budget fuel (launched host i w d) ph k →
      (host.kill k.world).1 ≠ .never)
    (hn : ¬ ((host.timeline i w).Consumed c i.budget n ∧ ((host.timeline i w).event n).Passes c))
    (hfuel : n < fuel) : ∃ r, run host c clock fuel i w = .finished r := by
  match hlaunch : (host.launch i w).1 with
  | .never => exact absurd hlaunch launch
  | .after d (.error e) => exact ⟨_, run_eq_finished_iff.2 ⟨noOverflow, .unlaunched hlaunch⟩⟩
  | .after d (.ok ()) =>
    obtain ⟨ph, k, course⟩ := exists_supervises hlaunch hn hfuel
    match hkill : (host.kill k.world).1 with
    | .never => exact absurd hkill (kill course)
    | .after d' a =>
      exact ⟨_, run_eq_finished_iff.2 ⟨noOverflow, .supervised hlaunch course hkill⟩⟩

/-- The exit after the events of a script is never passed. -/
theorem not_passes_scriptEnd (s : Script) : ¬ (s.timeline.event s.events.length).Passes c := by
  rintro ⟨d, l, h, _⟩
  simp [Script.timeline, Reply.now] at h

/-- No call changes how the kill of a script goes. -/
theorem Supervises.kill_script {id : Nat} {s : Script} {p k : Progress Script}
    (h : Supervises (Script.host id) c deadline fuel p ph k) (hp : p.world.kill = s.kill) :
    k.world.kill = s.kill := by
  refine h.world (I := fun s' => s'.kill = s.kill) (fun _ hw => hw) ?_ (fun _ hw => hw) hp
  intro s' hw
  exact (Script.kill_nextEvent s').trans hw

/-- A run over a script whose launch succeeds and whose kill returns comes to an end. -/
theorem exists_run_script {id clock : Nat} {s : Script} (noOverflow : clock + i.budget < clockEnd)
    (enough : s.events.length < fuel) (launch : s.launch.Succeeds) (kill : s.kill ≠ .never) :
    ∃ r, run (Script.host id) c clock fuel i s = .finished r := by
  obtain ⟨d, ⟨⟩, reply⟩ := launch
  have hlaunch : ((Script.host id).launch i s).1 ≠ .never := by
    change s.launch ≠ .never
    rw [reply]
    exact nofun
  have hkill : ∀ {d ph k}, Supervises (Script.host id) c i.budget fuel
      (launched (Script.host id) i s d) ph k → ((Script.host id).kill k.world).1 ≠ .never := by
    intro d ph k course
    change k.world.kill ≠ .never
    rw [course.kill_script rfl]
    exact kill
  have hend : ¬ (((Script.host id).timeline i s).Consumed c i.budget s.events.length ∧
      (((Script.host id).timeline i s).event s.events.length).Passes c) := by
    rw [Script.timeline_host]
    exact fun h => not_passes_scriptEnd s h.2
  exact exists_run noOverflow hlaunch hkill hend enough

/-- Supervising a child that follows a script, whose launch and kill return, gives exactly the
    verdict of the script's timeline. -/
theorem run_script_verdict (id clock fuel : Nat) (c : Classifier) (i : Invocation) (s : Script)
    (noOverflow : clock + i.budget < clockEnd) (enough : s.events.length < fuel)
    (launch : s.launch.Succeeds) (kill : s.kill ≠ .never) :
    ∃ r v, run (Script.host id) c clock fuel i s = .finished r ∧ r.result = .ok v ∧
      ∀ v', s.timeline.Verdict c i.budget v' ↔ v' = v := by
  obtain ⟨r, hrun⟩ := exists_run_script (c := c) noOverflow enough launch kill
  have hlaunch : ((Script.host id).timeline i s).launch.Succeeds := launch
  obtain ⟨v, hv, hverdict⟩ := (run_eq_finished_iff.1 hrun).2.verdict hlaunch
  rw [Script.timeline_host] at hverdict
  refine ⟨r, v, hrun, hv, fun v' => ?_⟩
  constructor
  · intro hv'
    exact hv'.unique hverdict
  · rintro rfl
    exact hverdict

/-- A finding, and the completion mark exactly at the deadline. -/
theorem run_script_verdict_atDeadline :
    let s : Script := ⟨.after 3 (.ok ()),
      .after 2 (.ok (some "Trying to compile a.c ... OK".toList)),
      [.after 1 (.ok (.line ⟨.stderr, "a.c:12:3: error: dereference of NULL value".toList⟩)),
        .after 4 (.ok (.line ⟨.stdout, "clEasyRun() took 1 s".toList⟩))], .never, .now ()⟩
    (0 + 10 < clockEnd ∧ s.events.length < 3 ∧ s.launch.Succeeds ∧ s.kill ≠ .never) ∧
      ∃ r v, run (Script.host 7) .builtin 0 3 ⟨"slllvm".toList, [], [], 10⟩ s = .finished r ∧
        r.result = .ok v ∧ ∀ v', s.timeline.Verdict .builtin 10 v' ↔ v' = v := by
  intro s
  have noOverflow : 0 + 10 < clockEnd := by decide
  have enough : s.events.length < 3 := by decide
  have launch : s.launch.Succeeds := ⟨3, (), rfl⟩
  have kill : s.kill ≠ .never := nofun
  exact ⟨⟨noOverflow, enough, launch, kill⟩,
    run_script_verdict 7 0 3 .builtin ⟨"slllvm".toList, [], [], 10⟩ s noOverflow enough launch kill⟩

end Overseer.Supervisor
