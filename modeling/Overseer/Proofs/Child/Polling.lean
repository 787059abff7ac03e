import Overseer.Proofs.Child.Delivery

/-! ## No line of a child is lost

Polling a session for its first line or for an event is a run of the steps of a scene: the call
begins, its polls and the exit are taken in one of the orders that steps may have, and the call is
given up if it is still pending. So what is told in all runs of steps is told however steps and
operations take turns. -/

namespace Overseer.ChildSession

open LineReader (texts)

/-! ### The end of both pipes -/

/-- A pipe has ended exactly if the answer says so. -/
theorem ended_pollStream_iff (s : ChildSession) (st : Stream) :
    ((s.pollStream st).2.reader st).ended = true ↔ (s.pollStream st).1 = .ready (.ok none) := by
  by_cases ended : (s.reader st).ended = true
  · rw [pollStream_of_ended ended]
    exact iff_of_true ended rfl
  · rw [pollStream_of_not_ended ended]
    dsimp only
    rw [reader_setReader_self]
    have hpoll := (s.reader st).polls_pollPiece
    generalize (s.reader st).pollPiece.1 = answer at hpoll ⊢
    generalize (s.reader st).pollPiece.2 = r at hpoll ⊢
    cases hpoll with
    | piece _ => exact iff_of_false ended nofun
    | pending _ _ => exact iff_of_false ended nofun
    | failed _ _ => exact iff_of_false ended nofun
    | last _ _ _ => exact iff_of_false ended nofun
    | ended _ _ => exact iff_of_true rfl rfl

theorem bothEnded_iff_other (s : ChildSession) (st : Stream) :
    s.bothEnded = true ↔ (s.reader st).ended = true ∧ (s.reader st.other).ended = true := by
  cases st with
  | stdout => exact Bool.and_eq_true_iff
  | stderr => exact Bool.and_eq_true_iff.trans and_comm

theorem ne_other (st : Stream) : st ≠ st.other := by
  cases st <;> nofun

/-- Both pipes have ended exactly if there is no line and none is waited for. -/
theorem bothEnded_pollLine_iff (s : ChildSession) (first : Stream) :
    (s.pollLine first).2.bothEnded = true ↔ (s.pollLine first).1 = .ready (.ok none) := by
  have hfirst := s.ended_pollStream_iff first
  -- The second poll leaves the first pipe as it is.
  have hkept (t : ChildSession) :
      (t.pollStream first.other).2.reader first = t.reader first :=
    t.reader_pollStream_of_ne (ne_other first)
  unfold pollLine
  match h : s.pollStream first with
  | (.pending, t) =>
    rw [h] at hfirst
    have hopen : (t.pollStream first.other).2.bothEnded ≠ true := by
      rw [Ne, bothEnded_iff_other _ first, hkept, hfirst]
      nofun
    dsimp only
    match h' : t.pollStream first.other with
    | (.pending, t') => rw [h'] at hopen; exact iff_of_false hopen nofun
    | (.ready (.error _), t') => rw [h'] at hopen; exact iff_of_false hopen nofun
    | (.ready (.ok none), t') => rw [h'] at hopen; exact iff_of_false hopen nofun
    | (.ready (.ok (some _)), t') => rw [h'] at hopen; exact iff_of_false hopen nofun
  | (.ready (.error _), t) =>
    rw [h] at hfirst
    exact iff_of_false (fun both => nomatch hfirst.1 (bothEnded_iff.1 both first)) nofun
  | (.ready (.ok (some _)), t) =>
    rw [h] at hfirst
    exact iff_of_false (fun both => nomatch hfirst.1 (bothEnded_iff.1 both first)) nofun
  | (.ready (.ok none), t) =>
    rw [h] at hfirst
    dsimp only
    rw [bothEnded_iff_other _ first, hkept, ended_pollStream_iff, and_iff_right (hfirst.2 rfl)]

namespace Scene

variable {c c' : Scene} {s s' : ChildSession} {first : Stream} {graceOver : Bool}

theorem resume_resume (s s' : ChildSession) (report : Option Report) :
    (c.resume s none).resume s' report = c.resume s' report := by
  cases report <;> rfl

/-! ### Lines -/

/-- A call that reads both pipes does not ask for the first line. -/
theorem report?_none_of_reads {a : Activity} (reads : ∀ st, a.readsFrom st = true) :
    a.report? (.ready (.ok none)) = none := by
  refine if_neg fun ha => ?_
  subst ha
  cases reads .stdout

/-- Polling both pipes, and telling of the line that was found, is a run. -/
theorem run_pollLine (first : Stream) (reads : ∀ st, c.activity.readsFrom st = true) :
    Relation.ReflTransGen Step c
      (c.resume (c.session.pollLine first).2
        (c.activity.report? (c.session.pollLine first).1)) := by
  have hnone := report?_none_of_reads reads
  have hfirst : Step c (c.poll first) := .poll first (reads first)
  have hother (s : ChildSession) : Step (c.resume s none) (c.resume (s.pollStream first.other).2
      (c.activity.report? (s.pollStream first.other).1)) := by
    have hstep : Step (c.resume s none) ((c.resume s none).poll first.other) :=
      .poll first.other (reads first.other)
    unfold Scene.poll at hstep
    rw [resume_resume] at hstep
    exact hstep
  unfold Scene.poll at hfirst
  unfold pollLine
  match h : c.session.pollStream first with
  | (.pending, s) =>
    rw [h] at hfirst
    have hrun := Relation.ReflTransGen.single hfirst |>.tail (hother s)
    dsimp only
    match h' : s.pollStream first.other with
    | (.pending, s') => rw [h'] at hrun; exact hrun
    | (.ready (.error _), s') => rw [h'] at hrun; exact hrun
    | (.ready (.ok none), s') => rw [h', hnone] at hrun; exact hrun
    | (.ready (.ok (some _)), s') => rw [h'] at hrun; exact hrun
  | (.ready (.error _), s) => rw [h] at hfirst; exact .single hfirst
  | (.ready (.ok none), s) =>
    rw [h, hnone] at hfirst
    exact .tail (.single hfirst) (hother s)
  | (.ready (.ok (some _)), s) => rw [h] at hfirst; exact .single hfirst

/-! ### Operations -/

/-- What the caller is told of the first line. -/
def handshakeReport : Poll (Except ProcessError (Option Text)) → Option Report
  | .pending => none
  | .ready (.error e) => some (.failed e)
  | .ready (.ok line) => some (.firstLine line)

/-- What the caller is told of an event, `cause` being why an exit is reported. -/
def eventReport (cause : ExitCause) : Poll (Except ProcessError Event) → Option Report
  | .pending => none
  | .ready (.error e) => some (.failed e)
  | .ready (.ok (.line l)) => some (.line l)
  | .ready (.ok (.exited code)) => some (.exited cause code)

/-- Why an exit is reported for the first time, given the session then. -/
def firstCause (after : ChildSession) : ExitCause :=
  if after.bothEnded then .pipesEnded else .graceOver

/-- Why a poll reports an exit, given the session before it and after it. -/
def exitCause (before after : ChildSession) : ExitCause :=
  if before.finished then .reportedBefore else firstCause after

/-- The scene after a poll that has left the session `s`: the call is over, and was given up if it
    was pending. -/
def polled (s : ChildSession) (report : Option Report) (c : Scene) : Scene :=
  (c.resume s report).turnTo .idle

def handshakePolled (c : Scene) : Scene :=
  c.polled c.session.pollHandshake.2 (handshakeReport c.session.pollHandshake.1)

def eventPolled (p : Preference) (graceOver : Bool) (c : Scene) : Scene :=
  c.polled (c.session.pollEvent p graceOver).2
    (eventReport (exitCause c.session (c.session.pollEvent p graceOver).2)
      (c.session.pollEvent p graceOver).1)

/-- All that can happen while the operations are used: steps, and polls as a whole. -/
inductive Turn (c : Scene) : Scene → Prop
  | step {c' : Scene} (h : Step c c') : Turn c c'
  | pollHandshake (idle : c.activity = .idle) : Turn c c.handshakePolled
  | pollEvent (idle : c.activity = .idle) (p : Preference) (graceOver : Bool) :
      Turn c (c.eventPolled p graceOver)

/-! ### The first line -/

/-- Polling for the first line, and giving up if it is pending, is a run. -/
theorem run_pollHandshake (idle : c.activity = .idle) :
    Relation.ReflTransGen Step c c.handshakePolled := by
  have hasked : Step c (c.turnTo .handshake) := .askHandshake idle
  have hpoll : Step (c.turnTo .handshake) ((c.turnTo .handshake).poll .stderr) := .poll .stderr rfl
  have hrun := Relation.ReflTransGen.single hasked |>.tail hpoll |>.tail .giveUp
  unfold Scene.poll at hrun
  change Relation.ReflTransGen Step c
    (((c.turnTo .handshake).resume (c.session.pollStream .stderr).2
      (Activity.report? .handshake (c.session.pollStream .stderr).1)).turnTo .idle) at hrun
  unfold handshakePolled pollHandshake
  match h : c.session.pollStream .stderr with
  | (.pending, s) => rw [h] at hrun; exact hrun
  | (.ready (.error _), s) => rw [h] at hrun; exact hrun
  | (.ready (.ok none), s) => rw [h] at hrun; exact hrun
  | (.ready (.ok (some _)), s) => rw [h] at hrun; exact hrun

/-! ### Events -/

/-- What is left of a call reads neither what was written nor what was told before. -/
theorem polled_congr (hwritten : c'.written = c.written) (hreports : c'.reports = c.reports)
    (s : ChildSession) (report : Option Report) : c'.polled s report = c.polled s report := by
  unfold polled turnTo resume
  cases report with
  | none => dsimp only; rw [hwritten, hreports]
  | some _ => dsimp only; rw [hwritten, hreports]

/-- Polling for an event comes to `result` by a run of the steps of `c`, and reports an exit for the
    first time. -/
def RunsTo (c : Scene) (result : Poll (Except ProcessError Event) × ChildSession) : Prop :=
  Relation.ReflTransGen Step c
    (c.polled result.2 (eventReport (firstCause result.2) result.1))

theorem RunsTo.of_run {result : Poll (Except ProcessError Event) × ChildSession}
    (run : Relation.ReflTransGen Step c c') (hwritten : c'.written = c.written)
    (hreports : c'.reports = c.reports) (h : RunsTo c' result) : RunsTo c result := by
  unfold RunsTo at h
  rw [polled_congr hwritten hreports] at h
  exact run.trans h

theorem runsTo_pollAfterExit (rest : c.activity = .readingRest) (first : Stream)
    (graceOver : Bool) : RunsTo c (c.session.pollAfterExit first graceOver) := by
  have reads (st : Stream) : c.activity.readsFrom st = true := by
    rw [rest]
    rfl
  have hrun := run_pollLine first reads
  have hended := c.session.bothEnded_pollLine_iff first
  rw [rest] at hrun
  unfold pollAfterExit
  match h : c.session.pollLine first with
  | (.ready (.error reason), s) =>
    rw [h] at hrun
    exact hrun.tail .giveUp
  | (.ready (.ok (some l)), s) =>
    rw [h] at hrun
    exact hrun.tail .giveUp
  | (.ready (.ok none), s) =>
    rw [h] at hrun hended
    have ended : s.bothEnded = true := hended.2 rfl
    have hcause : firstCause s.reportExit.2 = .pipesEnded := if_pos ended
    have hexit := (hrun.tail (.exitAtEnd rest ended)).tail .giveUp
    change RunsTo c s.reportExit
    rw [RunsTo, hcause]
    exact hexit
  | (.pending, s) =>
    rw [h] at hrun hended
    cases graceOver with
    | true =>
      have hcause : firstCause s.reportExit.2 = .graceOver :=
        if_neg fun both => nomatch hended.1 both
      have hexit := (hrun.tail (.exitAfterGrace rest)).tail .giveUp
      change RunsTo c s.reportExit
      rw [RunsTo, hcause]
      exact hexit
    | false => exact hrun.tail .giveUp

theorem pollExit_of_ended {status : ExitStatus} (h : s.exit = some (.ended status)) :
    s.pollExit first graceOver =
      { s with recorded := some status }.pollAfterExit first graceOver := by
  unfold pollExit
  rw [h]

theorem runsTo_pollExit (waits : c.activity.takesExit = true) (first : Stream) (graceOver : Bool) :
    RunsTo c (c.session.pollExit first graceOver) := by
  match h : c.session.exit with
  | none =>
    unfold pollExit
    rw [h]
    exact .single .giveUp
  | some (.failed reason) =>
    unfold pollExit
    rw [h]
    exact .tail (.single (.waitFailed waits h)) .giveUp
  | some (.ended status) =>
    rw [pollExit_of_ended h]
    have hrest : (c.takeExit status).activity = .readingRest := rfl
    exact .of_run (.single (.takeExit waits h)) rfl rfl
      (runsTo_pollAfterExit hrest first graceOver)

theorem runsTo_pollLineThenExit (reading : c.activity = .reading) (first : Stream)
    (graceOver : Bool) : RunsTo c (c.session.pollLineThenExit first graceOver) := by
  have reads (st : Stream) : c.activity.readsFrom st = true := by
    rw [reading]
    rfl
  have waits : c.activity.takesExit = true := by
    rw [reading]
    rfl
  have hrun := run_pollLine first reads
  rw [reading] at hrun
  unfold pollLineThenExit
  match h : c.session.pollLine first with
  | (.ready (.error reason), s) =>
    rw [h] at hrun
    exact hrun.tail .giveUp
  | (.ready (.ok (some l)), s) =>
    rw [h] at hrun
    exact hrun.tail .giveUp
  | (.ready (.ok none), s) =>
    rw [h] at hrun
    exact .of_run hrun rfl rfl (runsTo_pollExit (c := c.resume s none) waits first graceOver)
  | (.pending, s) =>
    rw [h] at hrun
    exact .of_run hrun rfl rfl (runsTo_pollExit (c := c.resume s none) waits first graceOver)

/-- Polling for an event, and giving up if it is pending, is a run. -/
theorem run_pollEvent (idle : c.activity = .idle) (p : Preference) (graceOver : Bool) :
    Relation.ReflTransGen Step c (c.eventPolled p graceOver) := by
  unfold eventPolled exitCause pollEvent
  by_cases finished : c.session.finished = true
  · simp only [if_pos finished]
    exact .tail (.single (.askAgain idle finished)) .giveUp
  · simp only [if_neg finished]
    have hasked := Step.askEvent idle (Bool.eq_false_iff.2 finished)
    refine RunsTo.of_run (.single hasked) rfl rfl ?_
    by_cases recorded : c.session.recorded.isSome = true
    · rw [if_pos recorded, if_pos recorded]
      exact runsTo_pollAfterExit (c := c.turnTo .readingRest) rfl p.stream graceOver
    · rw [if_neg recorded, if_neg recorded]
      by_cases exitFirst : (p.exitFirst && c.session.exit.isSome) = true
      · rw [if_pos exitFirst]
        exact runsTo_pollExit (c := c.turnTo .reading) rfl p.stream graceOver
      · rw [if_neg exitFirst]
        exact runsTo_pollLineThenExit (c := c.turnTo .reading) rfl p.stream graceOver

/-! ### Turns -/

theorem Turn.run (h : Turn c c') : Relation.ReflTransGen Step c c' := by
  cases h with
  | step h => exact .single h
  | pollHandshake idle => exact run_pollHandshake idle
  | pollEvent idle p graceOver => exact run_pollEvent idle p graceOver

theorem run_of_turns (turns : Relation.ReflTransGen Turn c c') :
    Relation.ReflTransGen Step c c' :=
  Relation.reflTransGen_closed (fun _ _ => Turn.run) _ _ turns

/-- Whatever the order of turns, what is told of a stream are its first texts, in order. If the exit
    was reported because both pipes had ended, all texts of both were told before it and none after
    it, and the code that it gives is that of the child. -/
theorem run_loses_no_line {id limit : Nat} {c : Scene}
    (turns : Relation.ReflTransGen Turn (start id limit) c) :
    (∀ st, textsOf st c.reports <+: texts limit (c.written st)) ∧
    ∀ before code after, c.reports = before ++ .exited .pipesEnded code :: after →
      (∀ st, textsOf st before = texts limit (c.written st) ∧ textsOf st after = []) ∧
      ∃ status, c.session.exit = some (.ended status) ∧ code = status.code? := by
  have run := run_of_turns turns
  refine ⟨textsOf_isPrefix run, fun before code after told => ?_⟩
  have hcomplete := complete_of_run run told
  refine ⟨fun st => ⟨hcomplete.told st, ?_⟩, hcomplete.exit⟩
  have hall := textsOf_isPrefix run st
  have hsplit : textsOf st c.reports = textsOf st before ++ textsOf st after := by
    rw [told, textsOf_append]
    rfl
  rw [hsplit, ← hcomplete.told st] at hall
  exact List.append_right_eq_self.1 (hall.eq_of_length_le (by rw [List.length_append]; omega))

/-- A child that exits with code 3. The second line of its stderr comes in two chunks, the caller
    gives up in between, and the exit is taken before the line is whole. -/
theorem run_loses_no_line_givenUp :
    let told : List Report := [.firstLine (some "ok".toList), .line ⟨.stdout, "x".toList⟩,
      .line ⟨.stderr, "abc".toList⟩]
    ∃ c, Relation.ReflTransGen Turn (start 7 LineReader.standardLimit) c ∧
      c.reports = told ++ .exited .pipesEnded (some 3) :: [] ∧
      c.written .stderr = [0x6F, 0x6B, 0x0A, 0x61, 0x62, 0x63] ∧
      (∀ st, textsOf st told = texts LineReader.standardLimit (c.written st) ∧
        textsOf st [] = []) ∧
      ∃ status, c.session.exit = some (.ended status) ∧ some 3 = status.code? := by
  intro told
  have turns : Relation.ReflTransGen Turn (start 7 LineReader.standardLimit) _ :=
    .head (.step (.deliver .stderr [0x6F, 0x6B, 0x0A, 0x61, 0x62] rfl)) <|
    .head (.pollHandshake rfl) <| .head (.pollEvent rfl ⟨false, .stdout⟩ false) <|
    .head (.step (.settle (.ended (.exited 3)) nofun)) <| .head (.step (.askEvent rfl rfl)) <|
    .head (.step (.takeExit rfl rfl)) <| .head (.step (.deliver .stdout [0x78, 0x0A] rfl)) <|
    .head (.step (.poll .stdout rfl)) <| .head (.step (.deliver .stderr [0x63] rfl)) <|
    .head (.step (.close .stderr rfl)) <| .head (.pollEvent rfl ⟨true, .stderr⟩ false) <|
    .head (.step (.close .stdout rfl)) <| .head (.pollEvent rfl ⟨true, .stdout⟩ false) .refl
  exact ⟨_, turns, rfl, rfl, (run_loses_no_line turns).2 told (some 3) [] rfl⟩

end Scene

end Overseer.ChildSession
