import Overseer.Proofs.Supervisor.Position

/-! ## The order of calls

The calls that a run makes, told from the timeline of its session. A child that was launched is
killed once and at the very end, whatever happens in between; what is left of its output is drained
only after a handshake that was read in time and rejected; an event is asked for only before the
deadline and only after lines that decide nothing. -/

namespace Overseer.Supervisor

open Progress

variable {σ : Type} {host : Host σ} {c : Classifier} {budget fuel : Nat} {i : Invocation} {w : σ}
  {k : Progress σ} {ph : Phase}

/-- The calls of a run with a given budget, in order. -/
inductive CallOrder (t : Timeline) (c : Classifier) (budget : Nat) : List Call → Prop
  | unlaunched (failed : t.launch.Fails) : CallOrder t c budget [.launch]
  /-- The first line came late, or reading it failed. -/
  | unread (launched : t.launch.Succeeds)
      (unread : ¬ t.OpensInTime budget ∨ t.handshake.Fails) :
      CallOrder t c budget [.launch, .handshake, .kill]
  | rejected (launched : t.launch.Succeeds) (opened : t.OpensInTime budget)
      (read : t.handshake.Succeeds) (bad : ¬ t.Compiles) :
      CallOrder t c budget [.launch, .handshake, .drain, .kill]
  | streamed {n : Nat} (launched : t.launch.Succeeds) (opened : t.OpensInTime budget)
      (good : t.Compiles) (asked : ∀ j, j < n ↔ t.Asked c budget j) :
      CallOrder t c budget ([.launch, .handshake] ++ List.replicate n .nextEvent ++ [.kill])

namespace CallOrder

variable {t : Timeline} {calls calls' : List Call}

/-- The launch comes once, before all else. -/
theorem launch (h : CallOrder t c budget calls) :
    calls.count .launch = 1 ∧ calls.head? = some .launch := by
  cases h with
  | unlaunched _ => exact ⟨rfl, rfl⟩
  | unread _ _ => exact ⟨rfl, rfl⟩
  | rejected _ _ _ _ => exact ⟨rfl, rfl⟩
  | streamed _ _ _ _ =>
    refine ⟨?_, rfl⟩
    simp [List.count_append, List.count_replicate]

/-- Nothing but the launch is called exactly if the launch failed. -/
theorem eq_launch_iff (h : CallOrder t c budget calls) : calls = [.launch] ↔ t.launch.Fails := by
  cases h with
  | unlaunched failed => exact iff_of_true rfl failed
  | unread launched _ => exact iff_of_false (by simp) launched.not_fails
  | rejected launched _ _ _ => exact iff_of_false (by simp) launched.not_fails
  | streamed launched _ _ _ => exact iff_of_false (by simp) launched.not_fails

/-- The child is killed exactly if it was launched. -/
theorem kill_mem_iff (h : CallOrder t c budget calls) : .kill ∈ calls ↔ t.launch.Succeeds := by
  cases h with
  | unlaunched failed => exact iff_of_false (by simp) fun launched => launched.not_fails failed
  | unread launched _ => exact iff_of_true (by simp) launched
  | rejected launched _ _ _ => exact iff_of_true (by simp) launched
  | streamed launched _ _ _ => exact iff_of_true (by simp) launched

/-- A child that was launched is killed once, by the last call. -/
theorem kill (h : CallOrder t c budget calls) (launched : t.launch.Succeeds) :
    calls.count .kill = 1 ∧ calls.getLast? = some .kill := by
  cases h with
  | unlaunched failed => exact absurd failed launched.not_fails
  | unread _ _ => exact ⟨rfl, rfl⟩
  | rejected _ _ _ _ => exact ⟨rfl, rfl⟩
  | streamed _ _ _ _ =>
    refine ⟨?_, List.getLast?_concat⟩
    simp [List.count_append, List.count_replicate]

/-- What is left is drained exactly after a handshake that was read in time and rejected. -/
theorem drain_mem_iff (h : CallOrder t c budget calls) :
    .drain ∈ calls ↔
      t.launch.Succeeds ∧ t.OpensInTime budget ∧ t.handshake.Succeeds ∧ ¬ t.Compiles := by
  cases h with
  | unlaunched failed => exact iff_of_false (by simp) fun h => h.1.not_fails failed
  | unread _ unread =>
    refine iff_of_false (by simp) ?_
    rintro ⟨_, opened, read, _⟩
    rcases unread with late | failed
    · exact late opened
    · exact read.not_fails failed
  | rejected launched opened read bad => exact iff_of_true (by simp) ⟨launched, opened, read, bad⟩
  | streamed _ _ good _ => exact iff_of_false (by simp) fun h => h.2.2.2 good

theorem count_nextEvent (n : Nat) :
    (([.launch, .handshake] ++ List.replicate n .nextEvent ++ [.kill] : List Call)).count
      .nextEvent = n := by
  simp [List.count_append]

/-- Exactly those events are asked for that the timeline says. -/
theorem lt_count_nextEvent_iff {j : Nat} (h : CallOrder t c budget calls) :
    j < calls.count .nextEvent ↔
      t.launch.Succeeds ∧ t.OpensInTime budget ∧ t.Compiles ∧ t.Asked c budget j := by
  cases h with
  | unlaunched failed =>
    exact iff_of_false (Nat.not_lt_zero j) fun h => h.1.not_fails failed
  | unread _ unread =>
    refine iff_of_false (Nat.not_lt_zero j) ?_
    rintro ⟨_, opened, good, _⟩
    rcases unread with late | failed
    · exact late opened
    · exact good.succeeds.not_fails failed
  | rejected _ _ _ bad => exact iff_of_false (Nat.not_lt_zero j) fun h => bad h.2.2.1
  | streamed launched opened good asked =>
    rw [count_nextEvent, asked]
    exact ⟨fun h => ⟨launched, opened, good, h⟩, fun h => h.2.2.2⟩

/-- No event is asked for after one that is not a line that decides nothing. -/
theorem count_nextEvent_le {m : Nat} (h : CallOrder t c budget calls)
    (hm : ¬ (t.event m).Passes c) : calls.count .nextEvent ≤ m + 1 := by
  by_contra hlt
  obtain ⟨_, _, _, before, _⟩ := h.lt_count_nextEvent_iff.1 (Nat.lt_of_not_le hlt)
  exact hm (before m (Nat.lt_succ_self m)).2

end CallOrder

/-- The calls of a run that read events up to where the reading stops. -/
theorem ReadTo.calls {n : Nat} {p : Progress σ} (h : ReadTo host c budget i w n p)
    (hstop : Stops host c budget p ph k) (launch : (host.timeline i w).launch.Succeeds)
    (opened : (host.timeline i w).OpensInTime budget) (good : (host.timeline i w).Compiles)
    (hcalls : p.calls = List.replicate n .nextEvent ++ [.handshake, .launch]) :
    CallOrder (host.timeline i w) c budget (k.calls.reverse ++ [.kill]) := by
  rcases hstop.calls with ⟨late, hk⟩ | ⟨early, hk⟩
  · have hasked : ∀ j, j < n ↔ (host.timeline i w).Asked c budget j := by
      intro j
      rw [h.asked_iff hstop]
      simp [Nat.not_lt.2 late]
    rw [hk, hcalls, List.reverse_append, List.reverse_replicate]
    exact .streamed launch opened good hasked
  · have hasked : ∀ j, j < n + 1 ↔ (host.timeline i w).Asked c budget j := by
      intro j
      rw [h.asked_iff hstop, Nat.lt_succ_iff_lt_or_eq]
      simp [early]
    rw [hk, hcalls, ← List.cons_append, ← List.replicate_succ, List.reverse_append,
      List.reverse_replicate]
    exact .streamed launch opened good hasked

/-- The calls of a run that launched its child. -/
theorem Supervises.calls {d : Nat} (launch : (host.launch i w).1 = .after d (.ok ()))
    (h : Supervises host c budget fuel (launched host i w d) ph k) :
    CallOrder (host.timeline i w) c budget (k.calls.reverse ++ [.kill]) := by
  have hlaunch : (host.timeline i w).launch.Succeeds := ⟨d, (), launch⟩
  cases h with
  | unopened overdue =>
    rw [inTime_handshake_iff launch] at overdue
    exact .unread hlaunch (.inl overdue)
  | failed reply _ => exact .unread hlaunch (.inr ⟨_, _, reply⟩)
  | rejected reply inTime bad =>
    rw [inTime_handshake_iff launch] at inTime
    rw [calls_noteRest]
    refine .rejected hlaunch inTime ⟨_, _, reply⟩ ?_
    rw [compiles_iff reply, bad]
    exact Bool.false_ne_true
  | streamed reply inTime good _ reads stops =>
    rw [inTime_handshake_iff launch] at inTime
    have hread := (readTo_opening _ launch reply).reads reads
    rw [Nat.zero_add] at hread
    exact hread.calls stops hlaunch inTime ((compiles_iff reply).2 good) reads.calls

theorem Runs.calls {r : RunReport σ} (h : Runs host c fuel i w r) :
    CallOrder (host.timeline i w) c i.budget r.calls := by
  cases h with
  | unlaunched reply => exact .unlaunched ⟨_, _, reply⟩
  | @supervised _ _ _ ph k reply course _ =>
    have hk : (k.move ph).calls = k.calls := rfl
    change CallOrder _ c i.budget (killed _ _ _ _ (k.move ph)).calls.reverse
    rw [calls_killed, hk, List.reverse_cons]
    exact course.calls reply

/-- The calls of a run that comes to an end follow the timeline of its session. -/
theorem run_calls {clock : Nat} {r : RunReport σ}
    (h : run host c clock fuel i w = .finished r) :
    CallOrder (host.timeline i w) c i.budget r.calls ∧
      (r.calls = [.launch] ↔ (host.timeline i w).launch.Fails) ∧
      (.kill ∈ r.calls ↔ (host.timeline i w).launch.Succeeds) ∧
      ((host.timeline i w).launch.Succeeds →
        r.calls.count .kill = 1 ∧ r.calls.getLast? = some .kill) ∧
      (.drain ∈ r.calls ↔
        (host.timeline i w).launch.Succeeds ∧ (host.timeline i w).OpensInTime i.budget ∧
          (host.timeline i w).handshake.Succeeds ∧ ¬ (host.timeline i w).Compiles) ∧
      (∀ j, j < r.calls.count .nextEvent ↔
        (host.timeline i w).launch.Succeeds ∧ (host.timeline i w).OpensInTime i.budget ∧
          (host.timeline i w).Compiles ∧ (host.timeline i w).Asked c i.budget j) ∧
      ∀ n, ¬ ((host.timeline i w).event n).Passes c → r.calls.count .nextEvent ≤ n + 1 := by
  have hcalls := (run_eq_finished_iff.1 h).2.calls
  exact ⟨hcalls, hcalls.eq_launch_iff, hcalls.kill_mem_iff, hcalls.kill, hcalls.drain_mem_iff,
    fun _ => hcalls.lt_count_nextEvent_iff, fun _ => hcalls.count_nextEvent_le⟩

/-- A handshake that is rejected and a drain that never answers. -/
theorem run_calls_drainHangs :
    let s : Script := ⟨.after 3 (.ok ()),
      .after 2 (.ok (some "Trying to compile a.c ... FAILED".toList)), [], .never, .now ()⟩
    let i : Invocation := ⟨"slllvm".toList, [], [], 10⟩
    let t := (Script.host 7).timeline i s
    ∃ r, run (Script.host 7) .builtin 0 1 i s = .finished r ∧
      r.calls = [.launch, .handshake, .drain, .kill] ∧
      CallOrder t .builtin 10 r.calls ∧ (r.calls = [.launch] ↔ t.launch.Fails) ∧
      (.kill ∈ r.calls ↔ t.launch.Succeeds) ∧
      (t.launch.Succeeds → r.calls.count .kill = 1 ∧ r.calls.getLast? = some .kill) ∧
      (.drain ∈ r.calls ↔
        t.launch.Succeeds ∧ t.OpensInTime 10 ∧ t.handshake.Succeeds ∧ ¬ t.Compiles) ∧
      (∀ j, j < r.calls.count .nextEvent ↔
        t.launch.Succeeds ∧ t.OpensInTime 10 ∧ t.Compiles ∧ t.Asked .builtin 10 j) ∧
      ∀ n, ¬ (t.event n).Passes .builtin → r.calls.count .nextEvent ≤ n + 1 := by
  intro s i t
  obtain ⟨r, h, hcalls⟩ : ∃ r, run (Script.host 7) .builtin 0 1 i s = .finished r ∧
      r.calls = [.launch, .handshake, .drain, .kill] := ⟨_, rfl, rfl⟩
  exact ⟨r, h, hcalls, run_calls h⟩

end Overseer.Supervisor
