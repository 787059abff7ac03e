import Overseer.Proofs.Session.Comparison
import Overseer.Proofs.Session.Prompt
import Overseer.Proofs.Supervisor.Verdict

/-! ## Runs compared

Two runs over scripts whose launch and kill return: with a larger budget, with other incidental data
and other cleaning up, or with the same lines in another order. Each of them comes to what its
timeline yields, so the runs compare as the verdicts of their timelines do. -/

namespace Overseer

/-! ### Runs that return -/

/-- What a run with a given budget has to come to, be its child launched or not. -/
inductive Timeline.Yields (t : Timeline) (c : Classifier) (budget : Nat) : RunResult → Prop
  | unlaunched (failed : t.launch.Fails) : Yields t c budget (.ofStatus .error .empty)
  | launched {v : RunResult} (launched : t.launch.Succeeds) (verdict : t.Verdict c budget v) :
      Yields t c budget v

/-- The calls that have no deadline come to an end. -/
structure Script.Returns (s : Script) : Prop where
  launch : s.launch ≠ .never
  kill : s.kill ≠ .never

/-- Both runs come to the same: neither begins, as clocks cannot show its deadline, or both end with
    the same result. -/
inductive Outcome.SameResult {σ τ : Type} : Outcome σ → Outcome τ → Prop
  | overflow : SameResult .overflow .overflow
  | finished {r : RunReport σ} {r' : RunReport τ} {v : RunResult} (left : r.result = .ok v)
      (right : r'.result = .ok v) : SameResult (.finished r) (.finished r')

namespace Timeline

variable {t t' : Timeline} {c : Classifier} {budget larger : Nat} {v v' : RunResult}

theorem Yields.verdict (h : t.Yields c budget v) (hlaunch : t.launch.Succeeds) :
    t.Verdict c budget v := by
  cases h with
  | unlaunched failed => exact absurd failed hlaunch.not_fails
  | launched _ verdict => exact verdict

/-- A timeline yields one result. -/
theorem Yields.unique (h : t.Yields c budget v) (h' : t.Yields c budget v') : v = v' := by
  cases h with
  | unlaunched failed =>
    cases h' with
    | unlaunched _ => rfl
    | launched launched _ => exact absurd failed launched.not_fails
  | launched launched verdict => exact verdict.unique (h'.verdict launched)

theorem Yields.mono (h : t.Yields c budget v) (decided : v.status ≠ .timeout)
    (hle : budget ≤ larger) : t.Yields c larger v := by
  cases h with
  | unlaunched failed => exact .unlaunched failed
  | launched launched verdict => exact .launched launched (verdict.mono decided hle)

theorem Alike.yields (h : t.Alike t') (ht : t.Yields c budget v) : t'.Yields c budget v := by
  cases ht with
  | unlaunched failed => exact .unlaunched (h.launch.fails failed)
  | launched launched verdict => exact .launched (h.launch.succeeds launched) (h.verdict verdict)

end Timeline

namespace Supervisor

variable {id id' clock fuel : Nat} {c : Classifier} {i i' : Invocation} {s s' : Script}

/-- A run over a script whose launch and kill return comes to an end, and to what the timeline of
    the script yields. -/
theorem exists_run_yields (id : Nat) (c : Classifier) (i : Invocation)
    (noOverflow : clock + i.budget < clockEnd) (enough : s.events.length < fuel)
    (returns : s.Returns) :
    ∃ r v, run (Script.host id) c clock fuel i s = .finished r ∧ r.result = .ok v ∧
      s.timeline.Yields c i.budget v := by
  match hlaunch : s.launch with
  | .never => exact absurd hlaunch returns.launch
  | .after d (.error e) =>
    have hruns : Runs (Script.host id) c fuel i s _ := .unlaunched hlaunch
    exact ⟨_, _, run_eq_finished_iff.2 ⟨noOverflow, hruns⟩, rfl, .unlaunched ⟨d, e, hlaunch⟩⟩
  | .after d (.ok ()) =>
    have launched : ((Script.host id).timeline i s).launch.Succeeds := ⟨d, (), hlaunch⟩
    obtain ⟨r, hrun⟩ : ∃ r, run (Script.host id) c clock fuel i s = .finished r :=
      exists_run_script noOverflow enough launched returns.kill
    obtain ⟨v, hv, hverdict⟩ := (run_eq_finished_iff.1 hrun).2.verdict launched
    rw [Script.timeline_host] at hverdict
    exact ⟨r, v, hrun, hv, .launched launched hverdict⟩

theorem run_eq_overflow_iff {σ : Type} {host : Host σ} {w : σ} :
    run host c clock fuel i w = .overflow ↔ clockEnd ≤ clock + i.budget := by
  unfold run
  by_cases hclock : clockEnd ≤ clock + i.budget
  · simp [hclock]
  · rw [if_neg hclock]
    cases runUntil host c fuel i i.budget w <;> simp [hclock]

/-- Runs with the same budget over scripts whose timelines yield the same come to the same. -/
theorem sameResult_of_yields (budget : i'.budget = i.budget) (enough : s.events.length < fuel)
    (enough' : s'.events.length < fuel) (returns : s.Returns) (returns' : s'.Returns)
    (yields : ∀ v v', s.timeline.Yields c i.budget v → s'.timeline.Yields c i.budget v' → v = v') :
    (run (Script.host id) c clock fuel i s).SameResult
      (run (Script.host id') c clock fuel i' s') := by
  by_cases hclock : clockEnd ≤ clock + i.budget
  · have hover : run (Script.host id) c clock fuel i s = .overflow :=
      run_eq_overflow_iff.2 hclock
    have hover' : run (Script.host id') c clock fuel i' s' = .overflow :=
      run_eq_overflow_iff.2 (budget ▸ hclock)
    rw [hover, hover']
    exact .overflow
  · have noOverflow := Nat.lt_of_not_le hclock
    obtain ⟨r, v, hrun, hv, hyields⟩ := exists_run_yields id c i noOverflow enough returns
    obtain ⟨r', v', hrun', hv', hyields'⟩ :=
      exists_run_yields id' c i' (budget ▸ noOverflow) enough' returns'
    rw [budget] at hyields'
    have heq : v = v' := yields v v' hyields hyields'
    rw [hrun, hrun']
    exact .finished hv (heq ▸ hv')

/-! ### Larger budgets -/

/-- Whatever a run came to before its time was over, with more time it comes to the same. -/
theorem run_script_larger_budget (id clock fuel : Nat) (c : Classifier) (i : Invocation)
    (s : Script) {larger : Nat} (hle : i.budget ≤ larger) (noOverflow : clock + larger < clockEnd)
    (enough : s.events.length < fuel) (returns : s.Returns) :
    ∃ r v r' v', run (Script.host id) c clock fuel i s = .finished r ∧ r.result = .ok v ∧
      run (Script.host id) c clock fuel { i with budget := larger } s = .finished r' ∧
      r'.result = .ok v' ∧ (v.status ≠ .timeout → v' = v) := by
  have noOverflow' : clock + i.budget < clockEnd :=
    (Nat.add_le_add_left hle clock).trans_lt noOverflow
  obtain ⟨r, v, hrun, hv, hyields⟩ := exists_run_yields id c i noOverflow' enough returns
  obtain ⟨r', v', hrun', hv', hyields'⟩ :=
    exists_run_yields id c { i with budget := larger } noOverflow enough returns
  refine ⟨r, v, r', v', hrun, hv, hrun', hv', fun decided => ?_⟩
  exact hyields'.unique (hyields.mono decided hle)

/-- The completion mark exactly at the deadline, and then plenty of time more. -/
theorem run_script_larger_budget_atDeadline :
    let c : Classifier := ⟨[(.literal "NULL".toList, [.invalidAccess])]⟩
    let s : Script := ⟨.after 3 (.ok ()),
      .after 2 (.ok (some "Trying to compile a.c ... OK".toList)),
      [.after 1 (.ok (.line ⟨.stderr, "a.c:12:3: error: NULL".toList⟩)),
        .after 4 (.ok (.line ⟨.stdout, "clEasyRun() took 1 s".toList⟩))], .never, .now ()⟩
    let i : Invocation := ⟨"slllvm".toList, [], [], 10⟩
    (i.budget ≤ 5000 ∧ 0 + 5000 < clockEnd ∧ s.events.length < 3 ∧ s.Returns) ∧
      ∃ r v r' v', run (Script.host 7) c 0 3 i s = .finished r ∧ r.result = .ok v ∧
        v.status = .ok ∧ run (Script.host 7) c 0 3 { i with budget := 5000 } s = .finished r' ∧
        r'.result = .ok v' ∧ v' = v := by
  intro c s i
  have hle : i.budget ≤ 5000 := by decide
  have noOverflow : 0 + 5000 < clockEnd := by decide
  have enough : s.events.length < 3 := by decide
  have returns : s.Returns := ⟨nofun, nofun⟩
  obtain ⟨r, v, r', v', hrun, hv, hrun', hv', hsame⟩ :=
    run_script_larger_budget 7 0 3 c i s hle noOverflow enough returns
  have hstatus : (run (Script.host 7) c 0 3 i s).result?.map (·.status) = some .ok := by
    decide +kernel
  have hok : v.status = .ok := by
    rw [Outcome.result?_eq_some.2 ⟨r, hrun, hv⟩] at hstatus
    exact Option.some.inj hstatus
  have decided : v.status ≠ .timeout := by
    rw [hok]
    nofun
  exact ⟨⟨hle, noOverflow, enough, returns⟩, r, v, r', v', hrun, hv, hok, hrun', hv', hsame decided⟩

/-! ### Incidental data -/

/-- Incidental data, cleaning up and what is started have no influence on the result: runs over
    scripts that differ in these alone come to the same, which is a result whenever clocks can show
    the deadline. -/
theorem run_script_incidental (id id' clock fuel : Nat) (c : Classifier)
    (budget : i'.budget = i.budget) (alike : s.Alike s') (enough : s.events.length < fuel)
    (returns : s.Returns) (returns' : s'.Returns) :
    (run (Script.host id) c clock fuel i s).SameResult
        (run (Script.host id') c clock fuel i' s') ∧
      (run (Script.host id) c clock fuel i s = .overflow ↔ clockEnd ≤ clock + i.budget) := by
  refine ⟨sameResult_of_yields budget enough ?_ returns returns' ?_, run_eq_overflow_iff⟩
  · rw [← alike.events.length_eq]
    exact enough
  · intro v v' hyields hyields'
    exact (alike.timeline.yields hyields).unique hyields'

/-- A handshake that is rejected: the one child drains at once and dies, the other fails to be
    drained and to be killed. -/
theorem run_script_incidental_cleanUpFails :
    let bad : Reply (Option Text) := .after 2 (.ok (some "Trying to compile a.c ... FAILED".toList))
    let s : Script := ⟨.after 3 (.ok ()), bad, [.after 1 (.ok (.exited (some 1)))],
      .now [⟨.stderr, "a.c:1:1: error: no".toList⟩], .now ()⟩
    let s' : Script := ⟨.after 3 (.ok ()), bad, [.after 1 (.ok (.exited none))], .never,
      .after 40 (.error (.killFailed "no such process".toList))⟩
    let i : Invocation := ⟨"slllvm".toList, [], [], 10⟩
    let i' : Invocation := ⟨"predatorHP".toList, ["-m32".toList], [97], 10⟩
    (i'.budget = i.budget ∧ s.Alike s' ∧ s.events.length < 2 ∧ s.Returns ∧ s'.Returns) ∧
      (run (Script.host 7) .builtin 0 2 i s).SameResult
        (run (Script.host 8) .builtin 0 2 i' s') ∧
      (run (Script.host 7) .builtin 0 2 i s = .overflow ↔ clockEnd ≤ 0 + i.budget) := by
  intro bad s s' i i'
  have budget : i'.budget = i.budget := rfl
  have alike : s.Alike s' := ⟨.answered rfl, .answered rfl, .cons (.answered .exited) .nil⟩
  have enough : s.events.length < 2 := by decide
  have returns : s.Returns := ⟨nofun, nofun⟩
  have returns' : s'.Returns := ⟨nofun, nofun⟩
  exact ⟨⟨budget, alike, enough, returns, returns'⟩,
    run_script_incidental 7 8 0 2 .builtin budget alike enough returns returns'⟩

/-! ### The order of lines -/

/-- Where everything is ready at once, neither the order of the lines before the event that decides,
    nor how often they come, nor on which stream, has any influence on the result, and neither have
    lines that report nothing or what comes after that event. -/
theorem run_script_interleaving (id clock fuel : Nat) (c : Classifier) (i : Invocation)
    {ls ls' : List OutputLine} {e : Event} (positive : 0 < i.budget) (prompt : s.Prompt c ls e)
    (prompt' : s'.Prompt c ls' e) (reports : c.SameReports ls ls')
    (enough : s.events.length < fuel) (enough' : s'.events.length < fuel) (kill : s.kill ≠ .never)
    (kill' : s'.kill ≠ .never) :
    (run (Script.host id) c clock fuel i s).SameResult (run (Script.host id) c clock fuel i s') ∧
      (run (Script.host id) c clock fuel i s = .overflow ↔ clockEnd ≤ clock + i.budget) := by
  refine ⟨sameResult_of_yields rfl enough enough' ⟨?_, kill⟩ ⟨?_, kill'⟩ ?_, run_eq_overflow_iff⟩
  · rw [prompt.launch]
    nofun
  · rw [prompt'.launch]
    nofun
  · intro v v' hyields hyields'
    exact prompt.verdict_unique prompt' reports positive (hyields.verdict ⟨0, (), prompt.launch⟩)
      (hyields'.verdict ⟨0, (), prompt'.launch⟩)

/-- Two lines that report something, in both orders and with noise between them, before the
    completion mark. -/
theorem run_script_interleaving_swapped :
    let c : Classifier := ⟨[(.literal "NULL".toList, [.invalidAccess]),
      (.literal "leak".toList, [.leak])]⟩
    let l : OutputLine := ⟨.stderr, "a.c:12:3: error: NULL".toList⟩
    let m : OutputLine := ⟨.stdout, "a.c:7: warning: leak".toList⟩
    let noise : OutputLine := ⟨.stdout, "1".toList⟩
    let e : Event := .line ⟨.stdout, "clEasyRun() took 1 s".toList⟩
    let hello : Reply (Option Text) := .now (some "Trying to compile a.c ... OK".toList)
    let s : Script := ⟨.now (), hello, [.now (.line l), .now (.line m), .now e], .never, .now ()⟩
    let s' : Script := ⟨.now (), hello, [.now (.line m), .now (.line noise),
      .now (.line { l with stream := .stdout }), .now (.line m), .now e, .never], .never, .now ()⟩
    let i : Invocation := ⟨"slllvm".toList, [], [], 10⟩
    (0 < i.budget ∧ s.Prompt c [l, m] e ∧
      s'.Prompt c [m, noise, { l with stream := .stdout }, m] e ∧
      c.SameReports [l, m] [m, noise, { l with stream := .stdout }, m] ∧
      s.events.length < 7 ∧ s'.events.length < 7 ∧ s.kill ≠ .never ∧ s'.kill ≠ .never) ∧
      (run (Script.host 7) c 0 7 i s).SameResult (run (Script.host 7) c 0 7 i s') ∧
      (run (Script.host 7) c 0 7 i s = .overflow ↔ clockEnd ≤ 0 + i.budget) := by
  intro c l m noise e hello s s' i
  have marks : Supervisor.compileMark <:+: "Trying to compile a.c ... OK".toList ∧
      Supervisor.okMark <:+: "Trying to compile a.c ... OK".toList := by
    decide +kernel
  -- one evaluation for all lines, as reading the patterns of the signals is what takes time
  have signals : (c.signal "a.c:12:3: error: NULL".toList = .none ∧
      c.signal "a.c:7: warning: leak".toList = .none ∧ c.signal "1".toList = .none) ∧
      c.signal "clEasyRun() took 1 s".toList ≠ .none := by
    decide +kernel
  obtain ⟨⟨quiet_l, quiet_m, quiet_noise⟩, decides⟩ := signals
  have prompt : s.Prompt c [l, m] e := by
    refine ⟨rfl, ⟨_, rfl, marks⟩, ⟨[], rfl⟩, ?_, decides⟩
    rintro x (_ | ⟨_, _ | ⟨_, ⟨⟩⟩⟩)
    · exact quiet_l
    · exact quiet_m
  have prompt' : s'.Prompt c [m, noise, { l with stream := .stdout }, m] e := by
    refine ⟨rfl, ⟨_, rfl, marks⟩, ⟨[.never], rfl⟩, ?_, decides⟩
    rintro x (_ | ⟨_, _ | ⟨_, _ | ⟨_, _ | ⟨_, ⟨⟩⟩⟩⟩⟩)
    · exact quiet_m
    · exact quiet_noise
    · exact quiet_l
    · exact quiet_m
  have silent : (c.classify noise.text).findings = .empty := by decide +kernel
  have reports : c.SameReports [l, m] [m, noise, { l with stream := .stdout }, m] := by
    rintro text ⟨f, hf⟩
    have hne : text ≠ noise.text := by
      intro htext
      rw [htext, silent] at hf
      exact FindingSet.not_mem_empty hf
    change text ∈ [l.text, m.text] ↔ text ∈ [m.text, noise.text, l.text, m.text]
    simp only [List.mem_cons, List.not_mem_nil, or_false, hne, false_or]
    constructor
    · rintro (hl | hm)
      · exact .inr (.inl hl)
      · exact .inl hm
    · rintro (hm | hl | hm)
      · exact .inr hm
      · exact .inl hl
      · exact .inr hm
  have positive : 0 < i.budget := by decide
  have enough : s.events.length < 7 := by decide
  have enough' : s'.events.length < 7 := by decide
  have kill : s.kill ≠ .never := nofun
  have kill' : s'.kill ≠ .never := nofun
  exact ⟨⟨positive, prompt, prompt', reports, enough, enough', kill, kill'⟩,
    run_script_interleaving 7 0 7 c i positive prompt prompt' reports enough enough' kill kill'⟩

end Supervisor

end Overseer
