import Overseer.Proofs.Supervisor.Streaming

/-! ## The courses of a run

Every way in which a run can go, as two relations: `Supervises` for what happens between launching
the child and killing it, `Runs` for the whole run. `supervise_eq_some_iff` and
`run_eq_finished_iff` say that these are all the ways and that each of them is taken. -/

namespace Overseer

variable {σ : Type}

namespace Outcome

/-- The result of a run that came to one. -/
def result? : Outcome σ → Option RunResult
  | .finished r => r.result.toOption
  | _ => none

theorem result?_eq_some {o : Outcome σ} {v : RunResult} :
    o.result? = some v ↔ ∃ r, o = .finished r ∧ r.result = .ok v := by
  constructor
  · intro h
    match o with
    | .overflow => cases h
    | .unfinished => cases h
    | .finished r =>
      refine ⟨r, rfl, ?_⟩
      change r.result.toOption = some v at h
      cases hr : r.result with
      | error e => rw [hr] at h; cases h
      | ok v' => rw [hr] at h; cases h; rfl
  · rintro ⟨r, rfl, hr⟩
    change r.result.toOption = some v
    rw [hr]
    rfl

end Outcome

namespace Supervisor

open Progress

/-! ### Between launch and kill -/

/-- A run whose child is compiling its input. -/
abbrev compiling (p : Progress σ) : Progress σ := p.move .compilingInput

/-- A run whose child has compiled its input. -/
abbrev opening (pid : Option Nat) (p : Progress σ) : Progress σ :=
  (p.note (.handshakeAccepted pid)).move .streaming

theorem enter_compiling {p : Progress σ} (hp : p.phase = .starting) :
    p.enter .compilingInput = .ok (compiling p) := by
  refine enter_of_leads ?_
  rw [hp]
  decide

theorem enter_streaming {p : Progress σ} {pid : Option Nat} (hp : p.phase = .compilingInput) :
    (p.note (.handshakeAccepted pid)).enter .streaming = .ok (opening pid p) := by
  refine enter_of_leads ?_
  change p.phase.Leads .streaming
  rw [hp]
  decide

section

variable (host : Host σ) (c : Classifier) (deadline fuel : Nat)

/-- What a run does between launching the child and killing it: the phase that it ends in and the
    run right before it enters that. -/
inductive Supervises (p : Progress σ) : Phase → Progress σ → Prop
  | unopened (overdue : ¬ (host.handshake p.world).1.InTime deadline p.clock) :
      Supervises p .timedOut (((compiling p).giveUp .handshake deadline).note .handshakeTimeout)
  | failed {d : Nat} {e : ProcessError} (reply : (host.handshake p.world).1 = .after d (.error e))
      (inTime : (host.handshake p.world).1.InTime deadline p.clock) :
      Supervises p .error
        (((compiling p).answer .handshake d (host.handshake p.world).2).note (.handshakeFailed e))
  | rejected {d : Nat} {line : Option Text}
      (reply : (host.handshake p.world).1 = .after d (.ok line))
      (inTime : (host.handshake p.world).1.InTime deadline p.clock)
      (bad : acceptsHandshake line = false) :
      Supervises p .error
        (noteRest host deadline
          (((compiling p).answer .handshake d (host.handshake p.world).2).note
            (.handshakeRejected line)))
  | streamed {d : Nat} {line : Option Text} {ls : List OutputLine} {q k : Progress σ} {ph : Phase}
      (reply : (host.handshake p.world).1 = .after d (.ok line))
      (inTime : (host.handshake p.world).1.InTime deadline p.clock)
      (good : acceptsHandshake line = true) (short : ls.length < fuel)
      (reads : Reads host c deadline
        (opening (host.pid (host.handshake p.world).2)
          ((compiling p).answer .handshake d (host.handshake p.world).2)) ls q)
      (stops : Stops host c deadline q ph k) :
      Supervises p ph k

end

variable {host : Host σ} {c : Classifier} {deadline fuel : Nat} {p k : Progress σ} {ph : Phase}

/-- What a run does when the handshake was rejected. -/
theorem noteRest_cases (host : Host σ) (deadline : Nat) (p : Progress σ) :
    noteRest host deadline p = (p.giveUp .drain deadline).note .drainTimeout ∨
      (∃ d e, noteRest host deadline p =
        (p.answer .drain d (host.drain p.world).2).note (.drainFailed e)) ∨
      ∃ d lines, noteRest host deadline p =
        (p.answer .drain d (host.drain p.world).2).noteLeftovers lines := by
  unfold noteRest
  rcases (host.drain p.world).1.overdue_or_answers deadline p.clock with overdue | ⟨d, a, hr, hin⟩
  · rw [callWithin_overdue overdue]
    exact .inl rfl
  · rw [callWithin_answered hr hin]
    match a with
    | .error e => exact .inr (.inl ⟨d, e, rfl⟩)
    | .ok lines => exact .inr (.inr ⟨d, lines, rfl⟩)

theorem calls_noteRest (p : Progress σ) : (noteRest host deadline p).calls = .drain :: p.calls := by
  rcases noteRest_cases host deadline p with h | ⟨d, e, h⟩ | ⟨d, lines, h⟩
  · rw [h]; rfl
  · rw [h]; rfl
  · rw [h, noteLeftovers_eq]; rfl

theorem phase_noteRest (p : Progress σ) : (noteRest host deadline p).phase = p.phase := by
  rcases noteRest_cases host deadline p with h | ⟨d, e, h⟩ | ⟨d, lines, h⟩
  · rw [h]; rfl
  · rw [h]; rfl
  · rw [h, noteLeftovers_eq]; rfl

theorem supervise_overdue (hp : p.phase = .starting)
    (overdue : ¬ (host.handshake p.world).1.InTime deadline p.clock) :
    supervise host c deadline fuel p =
      some (conclude .timedOut
        (((compiling p).giveUp .handshake deadline).note .handshakeTimeout)) := by
  have hcall := callWithin_overdue (p := compiling p) (k := .handshake) overdue
  simp only [supervise, enter_compiling hp, hcall]

theorem supervise_failed {d : Nat} {e : ProcessError} (hp : p.phase = .starting)
    (reply : (host.handshake p.world).1 = .after d (.error e))
    (inTime : (host.handshake p.world).1.InTime deadline p.clock) :
    supervise host c deadline fuel p =
      some (conclude .error
        (((compiling p).answer .handshake d (host.handshake p.world).2).note
          (.handshakeFailed e))) := by
  have hcall := callWithin_answered (p := compiling p) (k := .handshake) reply inTime
  simp only [supervise, enter_compiling hp, hcall]
  rfl

theorem supervise_rejected {d : Nat} {line : Option Text} (hp : p.phase = .starting)
    (reply : (host.handshake p.world).1 = .after d (.ok line))
    (inTime : (host.handshake p.world).1.InTime deadline p.clock)
    (bad : acceptsHandshake line = false) :
    supervise host c deadline fuel p =
      some (conclude .error (noteRest host deadline
        (((compiling p).answer .handshake d (host.handshake p.world).2).note
          (.handshakeRejected line)))) := by
  have hcall := callWithin_answered (p := compiling p) (k := .handshake) reply inTime
  simp only [supervise, enter_compiling hp, hcall, bad]
  rfl

theorem supervise_accepted {d : Nat} {line : Option Text} (hp : p.phase = .starting)
    (reply : (host.handshake p.world).1 = .after d (.ok line))
    (inTime : (host.handshake p.world).1.InTime deadline p.clock)
    (good : acceptsHandshake line = true) :
    supervise host c deadline fuel p =
      stream host c deadline fuel
        (opening (host.pid (host.handshake p.world).2)
          ((compiling p).answer .handshake d (host.handshake p.world).2)) := by
  have hcall := callWithin_answered (p := compiling p) (k := .handshake) reply inTime
  simp only [supervise, enter_compiling hp, hcall, good, if_true]
  rw [enter_streaming (p := (compiling p).answer _ _ _) rfl]
  rfl

/-- These are all the ways in which a run goes between launch and kill. -/
theorem supervise_eq_some_iff (hp : p.phase = .starting) {e : Ending σ} :
    supervise host c deadline fuel p = some e ↔
      ∃ ph k, Supervises host c deadline fuel p ph k ∧ e = conclude ph k := by
  constructor
  · intro h
    rcases (host.handshake p.world).1.overdue_or_answers deadline p.clock with
      overdue | ⟨d, a, reply, inTime⟩
    · rw [supervise_overdue hp overdue] at h
      cases h
      exact ⟨_, _, .unopened overdue, rfl⟩
    match a, reply with
    | .error e, reply =>
      rw [supervise_failed hp reply inTime] at h
      cases h
      exact ⟨_, _, .failed reply inTime, rfl⟩
    | .ok line, reply =>
      cases good : acceptsHandshake line with
      | false =>
        rw [supervise_rejected hp reply inTime good] at h
        cases h
        exact ⟨_, _, .rejected reply inTime good, rfl⟩
      | true =>
        rw [supervise_accepted hp reply inTime good] at h
        obtain ⟨ls, q, ph, k, short, reads, stops, he⟩ := stream_eq_some_iff.1 h
        exact ⟨ph, k, .streamed reply inTime good short reads stops, he⟩
  · rintro ⟨ph, k, hcourse, rfl⟩
    cases hcourse with
    | unopened overdue => exact supervise_overdue hp overdue
    | failed reply inTime => exact supervise_failed hp reply inTime
    | rejected reply inTime bad => exact supervise_rejected hp reply inTime bad
    | streamed reply inTime good short reads stops =>
      rw [supervise_accepted hp reply inTime good]
      exact stream_eq_some_iff.2 ⟨_, _, _, _, short, reads, stops, rfl⟩

/-- Whatever happens between launch and kill, the run may enter the phase that it ends in. -/
theorem Supervises.leads (h : Supervises host c deadline fuel p ph k) : k.phase.Leads ph := by
  cases h with
  | unopened _ => exact (by decide : Phase.compilingInput.Leads .timedOut)
  | failed _ _ => exact (by decide : Phase.compilingInput.Leads .error)
  | rejected _ _ _ =>
    rw [phase_noteRest]
    exact (by decide : Phase.compilingInput.Leads .error)
  | streamed _ _ _ _ reads stops => exact stops.leads reads.phase

/-- What holds of a world and of every world that a call makes of it holds when the child is to be
    killed. -/
theorem Supervises.world {I : σ → Prop} (handshake : ∀ w, I w → I (host.handshake w).2)
    (next : ∀ w, I w → I (host.nextEvent w).2) (drain : ∀ w, I w → I (host.drain w).2)
    (h : Supervises host c deadline fuel p ph k) (hp : I p.world) : I k.world := by
  cases h with
  | unopened _ => exact hp
  | failed _ _ => exact handshake _ hp
  | @rejected d line _ _ _ =>
    have hq : I (((compiling p).answer .handshake d (host.handshake p.world).2).note
        (.handshakeRejected line)).world := handshake _ hp
    rcases noteRest_cases host deadline _ with h | ⟨d, e, h⟩ | ⟨d, lines, h⟩
    · rw [h]; exact hq
    · rw [h]; exact drain _ hq
    · rw [h, noteLeftovers_eq]; exact drain _ hq
  | streamed _ _ _ _ reads stops => exact stops.world next (reads.world next (handshake _ hp))

/-! ### Whole runs -/

/-- A run that is about to launch its child. -/
def begun (i : Invocation) (w : σ) : Progress σ :=
  (Progress.start w).note (.starting i.commandLine i.budgetSeconds)

/-- A run that has launched its child, which took `d`. -/
abbrev launched (host : Host σ) (i : Invocation) (w : σ) (d : Nat) : Progress σ :=
  (begun i w).answer .launch d (host.launched i w)

/-- The result of a run that ends in a phase. -/
def resultIn (ph : Phase) (p : Progress σ) : RunResult :=
  .ofStatus (ph.status?.getD .error) p.findings

/-- A run after the kill, which took `d` and left the world `w`. -/
def killed (host : Host σ) (d : Nat) (a : Except ProcessError Unit) (w : σ) (p : Progress σ) :
    Progress σ :=
  match a with
  | .ok () => p.answer .kill d w
  | .error e => (p.answer .kill d w).note (.killFailed e (host.pid w))

/-- A run with its last record. -/
def finished (v : RunResult) (p : Progress σ) : Progress σ :=
  p.note (.finished v.status v.findings.size p.clock)

theorem calls_killed (host : Host σ) (d : Nat) (a : Except ProcessError Unit) (w : σ)
    (p : Progress σ) : (killed host d a w p).calls = .kill :: p.calls := by
  cases a <;> rfl

/-- What a run comes to. -/
inductive Runs (host : Host σ) (c : Classifier) (fuel : Nat) (i : Invocation) (w : σ) :
    RunReport σ → Prop
  | unlaunched {d : Nat} {e : ProcessError} (reply : (host.launch i w).1 = .after d (.error e)) :
      Runs host c fuel i w
        (report ⟨.ok (.ofStatus .error .empty),
          ((launched host i w d).note (.launchFailed e)).move .error⟩)
  | supervised {d d' : Nat} {a : Except ProcessError Unit} {ph : Phase} {k : Progress σ}
      (reply : (host.launch i w).1 = .after d (.ok ()))
      (course : Supervises host c i.budget fuel (launched host i w d) ph k)
      (kill : (host.kill k.world).1 = .after d' a) :
      Runs host c fuel i w
        (report ⟨.ok (resultIn ph k),
          finished (resultIn ph k) (killed host d' a (host.kill k.world).2 (k.move ph))⟩)

theorem conclude_resultIn (h : k.phase.Leads ph) :
    conclude ph k = ⟨.ok (resultIn ph k), k.move ph⟩ := conclude_of_leads h

theorem cleanUp_never {v : RunResult} (kill : (host.kill p.world).1 = .never) :
    cleanUp host ⟨.ok v, p⟩ = none := by
  unfold cleanUp
  rw [callUntilDone_never kill]

theorem cleanUp_after {v : RunResult} {d : Nat} {a : Except ProcessError Unit}
    (kill : (host.kill p.world).1 = .after d a) :
    cleanUp host ⟨.ok v, p⟩ =
      some ⟨.ok v, finished v (killed host d a (host.kill p.world).2 p)⟩ := by
  unfold cleanUp
  rw [callUntilDone_after kill]
  cases a <;> rfl

variable {i : Invocation} {w : σ}

theorem runUntil_never (reply : (host.launch i w).1 = .never) :
    runUntil host c fuel i deadline w = none := by
  have hcall := callUntilDone_never (p := begun i w) (k := .launch) reply
  unfold begun at hcall
  simp only [runUntil, hcall]

theorem runUntil_failed {d : Nat} {e : ProcessError}
    (reply : (host.launch i w).1 = .after d (.error e)) :
    runUntil host c fuel i deadline w =
      some ⟨.ok (.ofStatus .error .empty),
        ((launched host i w d).note (.launchFailed e)).move .error⟩ := by
  have hcall := callUntilDone_after (p := begun i w) (k := .launch) reply
  unfold begun at hcall
  simp only [runUntil, hcall]
  exact congrArg some (conclude_of_leads (by decide : Phase.starting.Leads .error))

theorem runUntil_launched {d : Nat} (reply : (host.launch i w).1 = .after d (.ok ())) :
    runUntil host c fuel i deadline w =
      (supervise host c deadline fuel (launched host i w d)).bind (cleanUp host) := by
  have hcall : (begun i w).callUntilDone .launch (host.launch i) =
      some (.ok (), launched host i w d) := callUntilDone_after reply
  unfold begun at hcall
  simp only [runUntil, hcall]
  cases supervise host c deadline fuel (launched host i w d) <;> rfl

theorem runs_iff {r : RunReport σ} :
    Runs host c fuel i w r ↔ ∃ e, runUntil host c fuel i i.budget w = some e ∧ report e = r := by
  constructor
  · intro h
    cases h with
    | unlaunched reply => exact ⟨_, runUntil_failed reply, rfl⟩
    | @supervised d d' a ph k reply course kill =>
      refine ⟨_, ?_, rfl⟩
      rw [runUntil_launched reply, (supervise_eq_some_iff rfl).2 ⟨_, _, course, rfl⟩,
        conclude_resultIn course.leads]
      exact cleanUp_after (p := k.move ph) kill
  · rintro ⟨e, he, rfl⟩
    match hreply : (host.launch i w).1 with
    | .never =>
      rw [runUntil_never hreply] at he
      cases he
    | .after d (.error cause) =>
      rw [runUntil_failed hreply] at he
      cases he
      exact .unlaunched hreply
    | .after d (.ok ()) =>
      rw [runUntil_launched hreply] at he
      obtain ⟨e', hsup, hclean⟩ := Option.bind_eq_some_iff.1 he
      obtain ⟨ph, k, course, rfl⟩ := (supervise_eq_some_iff rfl).1 hsup
      rw [conclude_resultIn course.leads] at hclean
      match hkill : (host.kill k.world).1 with
      | .never =>
        rw [cleanUp_never (p := k.move ph) hkill] at hclean
        cases hclean
      | .after d' a =>
        rw [cleanUp_after (p := k.move ph) hkill] at hclean
        cases hclean
        exact .supervised hreply course hkill

/-- These are all the ways in which a run goes. -/
theorem run_eq_finished_iff {clock : Nat} {r : RunReport σ} :
    run host c clock fuel i w = .finished r ↔
      clock + i.budget < clockEnd ∧ Runs host c fuel i w r := by
  rw [runs_iff]
  unfold run
  by_cases hclock : clockEnd ≤ clock + i.budget
  · simp [hclock, Nat.not_lt.2 hclock]
  · rw [if_neg hclock]
    cases runUntil host c fuel i i.budget w with
    | none => simp
    | some e => simp [Nat.lt_of_not_le hclock]

end Supervisor

end Overseer
