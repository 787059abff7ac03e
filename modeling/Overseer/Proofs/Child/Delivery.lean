import Overseer.Proofs.Child.Scene

/-! ## What is told of the streams

Whatever the order of the steps of a scene, each of its streams is a `Reading`: what is told of a
stream are the texts of its first pieces, in their order. An exit that is reported because both
pipes have ended comes after all of them. -/

namespace Overseer.ChildSession

open LineReader (Reading pieceText texts)

variable {s : ChildSession} {st st' : Stream} {id limit : Nat}

/-! ### What a poll tells -/

namespace Activity

variable {a : Activity}

/-- Nothing is told of a pipe that has ended but that it has. -/
theorem textsOf_report?_none (a : Activity) (st : Stream) :
    textsOf st (a.report? (.ready (.ok none))).toList = [] := by
  by_cases ha : a = .handshake
  · subst ha
    cases st <;> rfl
  · have hreport : a.report? (.ready (.ok none)) = none := if_neg ha
    rw [hreport]
    rfl

/-- Of a line that was found, its text is told. -/
theorem textsOf_report?_some (reads : a.readsFrom st = true) (text : Text) (st' : Stream) :
    textsOf st' (a.report? (.ready (.ok (some ⟨st, text⟩)))).toList =
      if st' = st then [text] else [] := by
  by_cases ha : a = .handshake
  · subst ha
    obtain rfl : st = .stderr := of_decide_eq_true reads
    cases st' <;> rfl
  · have hreport : a.report? (.ready (.ok (some ⟨st, text⟩))) = some (.line ⟨st, text⟩) := if_neg ha
    rw [hreport]
    cases st <;> cases st' <;> rfl

/-- What a poll has found is told. -/
theorem textsOf_report? (reads : a.readsFrom st = true)
    (p : Poll (Except Text (Option Bytes))) (st' : Stream) :
    textsOf st' (a.report? (p.mapFound fun piece => ⟨st, pieceText piece⟩)).toList =
      if st' = st then p.found.map pieceText else [] := by
  match p with
  | .pending => exact (ite_self _).symm
  | .ready (.error _) => exact (ite_self _).symm
  | .ready (.ok none) => exact (a.textsOf_report?_none st').trans (ite_self _).symm
  | .ready (.ok (some piece)) => exact textsOf_report?_some reads (pieceText piece) st'

theorem report?_ne_exited (a : Activity) (p : Poll (Except Text (Option OutputLine)))
    (cause : ExitCause) (code : Option Int) : a.report? p ≠ some (.exited cause code) := by
  match p with
  | .pending => nofun
  | .ready (.error _) => nofun
  | .ready (.ok none) => cases a <;> nofun
  | .ready (.ok (some _)) => cases a <;> nofun

end Activity

/-! ### The streams of a scene -/

namespace Scene

variable {c c' : Scene} {g g' : Reading} {before after : List Report} {code : Option Int}

/-- The reading `g` is a stream of the scene, and what was told of the stream are its texts. -/
structure Shows (c : Scene) (st : Stream) (g : Reading) : Prop where
  reader : c.session.reader st = g.reader
  written : c.written st = g.written
  told : textsOf st c.reports = g.pieces.map pieceText

/-- The scene shows what the reading has become after at most one step. -/
def ShowsNext (c' : Scene) (st : Stream) (g : Reading) : Prop :=
  ∃ g', Relation.ReflGen Reading.Step g g' ∧ c'.Shows st g'

/-- A change that concerns neither the reader nor what is told. -/
theorem Shows.kept (h : c.Shows st g) (hreader : c'.session.reader st = c.session.reader st)
    (hwritten : c'.written st = c.written st)
    (htold : textsOf st c'.reports = textsOf st c.reports) : c'.ShowsNext st g :=
  ⟨g, .refl, hreader.trans h.reader, hwritten.trans h.written, htold.trans h.told⟩

theorem Shows.deliver (h : c.Shows st g) {bytes : Bytes}
    (opened : (c.session.reader st').tail = .opened) : (c.deliver st' bytes).ShowsNext st g := by
  by_cases hst : st = st'
  · subst hst
    rw [h.reader] at opened
    refine ⟨_, .single (.deliver bytes opened), ?_, ?_, h.told⟩
    · rw [← h.reader]
      exact reader_setReader_self _ _ _
    · rw [← h.written]
      exact if_pos rfl
  · exact h.kept (reader_setReader_of_ne _ _ hst) (if_neg hst) rfl

theorem Shows.endPipe (h : c.Shows st g) {tail : Tail}
    (opened : (c.session.reader st').tail = .opened)
    (step : ∀ g : Reading, g.reader.tail = .opened →
      Reading.Step g { g with reader := { g.reader with tail := tail } }) :
    (c.endPipe st' tail).ShowsNext st g := by
  by_cases hst : st = st'
  · subst hst
    rw [h.reader] at opened
    refine ⟨_, .single (step g opened), ?_, h.written, h.told⟩
    rw [← h.reader]
    exact reader_setReader_self _ _ _
  · exact h.kept (reader_setReader_of_ne _ _ hst) rfl rfl

theorem Shows.poll (h : c.Shows st g) (reads : c.activity.readsFrom st' = true) :
    (c.poll st').ShowsNext st g := by
  have hreports : textsOf st (c.poll st').reports = textsOf st c.reports ++
      textsOf st (c.activity.report? (c.session.pollStream st').1).toList := by
    rw [← textsOf_append]
    exact congrArg (textsOf st) (reports_resume _ _)
  have hsession : (c.poll st').session = (c.session.pollStream st').2 := session_resume _ _
  have hwritten : (c.poll st').written = c.written := written_resume _ _
  by_cases ended : (c.session.reader st').ended = true
  · rw [pollStream_of_ended ended] at hreports hsession
    rw [Activity.textsOf_report?_none, List.append_nil] at hreports
    exact h.kept (by rw [hsession]) (by rw [hwritten]) hreports
  · rw [pollStream_of_not_ended ended] at hreports hsession
    rw [Activity.textsOf_report? reads] at hreports
    by_cases hst : st = st'
    · subst hst
      rw [if_pos rfl, h.told, ← List.map_append, h.reader] at hreports
      refine ⟨_, .single .poll, ?_, ?_, hreports⟩
      · rw [hsession, reader_setReader_self, h.reader]
      · rw [hwritten, h.written]
    · rw [if_neg hst, List.append_nil] at hreports
      refine h.kept ?_ (by rw [hwritten]) hreports
      rw [hsession, reader_setReader_of_ne _ _ hst]

/-- Reports that are of no stream. -/
theorem Shows.resume (h : c.Shows st g) {report : Report} (hreport : report.text? st = none)
    (hs : s.reader st = c.session.reader st) : (c.resume s (some report)).ShowsNext st g := by
  refine h.kept hs rfl ?_
  have htexts : textsOf st [report] = [] := List.filterMap_cons_none hreport
  have hreports := textsOf_append st c.reports [report]
  rw [htexts, List.append_nil] at hreports
  exact hreports

theorem reader_reportExit (s : ChildSession) (st : Stream) :
    s.reportExit.2.reader st = s.reader st := by
  cases st <;> rfl

/-- Each step of a scene is a step of a stream, or does not concern it. -/
theorem Step.shows (h : Step c c') (hg : c.Shows st g) : c'.ShowsNext st g := by
  cases h with
  | deliver _ _ opened => exact hg.deliver opened
  | close _ opened => exact hg.endPipe opened fun _ => .close
  | breakOff _ reason opened => exact hg.endPipe opened fun _ => .breakOff reason
  | settle _ _ => cases st <;> exact hg.kept rfl rfl rfl
  | askHandshake _ => exact hg.kept rfl rfl rfl
  | askEvent _ _ => exact hg.kept rfl rfl rfl
  | askAgain _ _ => exact hg.resume rfl (reader_reportExit _ _)
  | giveUp => exact hg.kept rfl rfl rfl
  | poll _ reads => exact hg.poll reads
  | pipesEnded _ _ => exact hg.kept rfl rfl rfl
  | takeExit _ _ => cases st <;> exact hg.kept rfl rfl rfl
  | waitFailed _ _ => exact hg.resume rfl rfl
  | exitAtEnd _ _ => exact hg.resume rfl (reader_reportExit _ _)
  | exitAfterGrace _ => exact hg.resume rfl (reader_reportExit _ _)

/-- Every stream of a run is a run of its reader. -/
theorem shows_of_run (run : Relation.ReflTransGen Step (start id limit) c) (st : Stream) :
    ∃ g, Relation.ReflTransGen Reading.Step (.start limit) g ∧ c.Shows st g := by
  induction run with
  | refl =>
    refine ⟨.start limit, .refl, ?_, rfl, rfl⟩
    cases st <;> rfl
  | tail _ step ih =>
    obtain ⟨g, hrun, hg⟩ := ih
    obtain ⟨g', hnext, hg'⟩ := step.shows hg
    exact ⟨g', hrun.trans hnext.to_reflTransGen, hg'⟩

/-! ### The exit status -/

/-- The child ends once. -/
theorem Step.exit_eq {status : ExitStatus} (h : Step c c')
    (ended : c.session.exit = some (.ended status)) :
    c'.session.exit = some (.ended status) := by
  cases h with
  | deliver _ _ _ => exact (exit_setReader _ _ _).trans ended
  | close _ _ => exact (exit_setReader _ _ _).trans ended
  | breakOff _ _ _ => exact (exit_setReader _ _ _).trans ended
  | settle _ running => exact absurd ended (running status)
  | askHandshake _ => exact ended
  | askEvent _ _ => exact ended
  | askAgain _ _ => exact ended
  | giveUp => exact ended
  | poll st _ =>
    have hsession : (c.poll st).session = (c.session.pollStream st).2 := session_resume _ _
    rw [hsession, exit_pollStream]
    exact ended
  | pipesEnded _ _ => exact ended
  | takeExit _ _ => exact ended
  | waitFailed _ _ => exact ended
  | exitAtEnd _ _ => exact ended
  | exitAfterGrace _ => exact ended

/-- The recorded status is that of the child, and what is left is read only when there is one. -/
structure Recorded (c : Scene) : Prop where
  exit : ∀ status, c.session.recorded = some status → c.session.exit = some (.ended status)
  rest : c.activity = .readingRest → c.session.recorded.isSome = true

/-- A step that does not take the exit status. -/
theorem Recorded.kept (hc : c.Recorded) (h : Step c c')
    (hrecorded : c'.session.recorded = c.session.recorded)
    (hrest : c'.activity = .readingRest → c.session.recorded.isSome = true) : c'.Recorded := by
  refine ⟨fun status hstatus => ?_, fun rest => ?_⟩
  · rw [hrecorded] at hstatus
    exact h.exit_eq (hc.exit status hstatus)
  · rw [hrecorded]
    exact hrest rest

theorem Step.recorded (h : Step c c') (hc : c.Recorded) : c'.Recorded := by
  have kept := hc.kept h
  cases h with
  | deliver _ _ _ => exact kept (recorded_setReader _ _ _) hc.rest
  | close _ _ => exact kept (recorded_setReader _ _ _) hc.rest
  | breakOff _ _ _ => exact kept (recorded_setReader _ _ _) hc.rest
  | settle _ _ => exact kept rfl hc.rest
  | askHandshake _ => exact kept rfl nofun
  | askEvent _ _ =>
    refine kept rfl fun rest => ?_
    by_contra hnone
    cases (if_neg hnone).symm.trans rest
  | askAgain _ _ => exact kept rfl nofun
  | giveUp => exact kept rfl nofun
  | poll st _ =>
    have hsession : (c.poll st).session = (c.session.pollStream st).2 := session_resume _ _
    refine kept (hsession ▸ recorded_pollStream _ _) fun rest => ?_
    rcases activity_resume (c := c) (c.session.pollStream st).2
      (c.activity.report? (c.session.pollStream st).1) with hidle | hsame
    · cases hidle.symm.trans rest
    · exact hc.rest (hsame.symm.trans rest)
  | pipesEnded _ _ => exact kept rfl nofun
  | @takeExit status _ ended =>
    refine ⟨fun status' hstatus => ?_, fun _ => rfl⟩
    cases hstatus
    exact ended
  | waitFailed _ _ => exact kept rfl nofun
  | exitAtEnd _ _ => exact kept rfl nofun
  | exitAfterGrace _ => exact kept rfl nofun

theorem recorded_of_run (run : Relation.ReflTransGen Step (start id limit) c) : c.Recorded := by
  induction run with
  | refl => exact ⟨nofun, nofun⟩
  | tail _ step ih => exact step.recorded ih

/-! ### Exits that are reported because the pipes have ended -/

/-- What a step tells, and when it tells that both pipes have ended. -/
theorem Step.reports (h : Step c c') :
    ∃ report : Option Report, c'.reports = c.reports ++ report.toList ∧
      ∀ code, report = some (.exited .pipesEnded code) →
        c.session.bothEnded = true ∧ c.activity = .readingRest ∧
          code = c.session.recorded.bind ExitStatus.code? := by
  have silent (h : c'.reports = c.reports) :
      c'.reports = c.reports ++ (none : Option Report).toList :=
    h.trans (List.append_nil _).symm
  cases h with
  | deliver _ _ _ => exact ⟨none, silent rfl, nofun⟩
  | close _ _ => exact ⟨none, silent rfl, nofun⟩
  | breakOff _ _ _ => exact ⟨none, silent rfl, nofun⟩
  | settle _ _ => exact ⟨none, silent rfl, nofun⟩
  | askHandshake _ => exact ⟨none, silent rfl, nofun⟩
  | askEvent _ _ => exact ⟨none, silent rfl, nofun⟩
  | askAgain _ _ => exact ⟨_, reports_resume _ _, nofun⟩
  | giveUp => exact ⟨none, silent rfl, nofun⟩
  | poll st reads =>
    refine ⟨_, reports_resume _ _, fun code hcode => ?_⟩
    exact absurd hcode (Activity.report?_ne_exited _ _ _ _)
  | pipesEnded _ _ => exact ⟨none, silent rfl, nofun⟩
  | takeExit _ _ => exact ⟨none, silent rfl, nofun⟩
  | waitFailed _ _ => exact ⟨_, reports_resume _ _, nofun⟩
  | exitAtEnd rest ended =>
    refine ⟨_, reports_resume _ _, fun code hcode => ?_⟩
    cases hcode
    exact ⟨ended, rest, rfl⟩
  | exitAfterGrace _ => exact ⟨_, reports_resume _ _, nofun⟩

/-- A stream whose end was reported does not change, and nothing more is told of it. -/
theorem Step.shows_of_ended (h : Step c c') (hg : c.Shows st g) (sound : g.Sound limit)
    (ended : (c.session.reader st).ended = true) : c'.Shows st g := by
  obtain ⟨g', hnext, hg'⟩ := h.shows hg
  cases hnext with
  | refl => exact hg'
  | single step =>
    rw [hg.reader] at ended
    obtain rfl := step.eq_of_ended sound ended
    exact hg'

/-- Both pipes have ended, `before` tells all their texts and `code` is how the child ended. -/
structure Complete (limit : Nat) (before : List Report) (code : Option Int) (c : Scene) : Prop where
  ended : ∀ st, (c.session.reader st).ended = true
  told : ∀ st, textsOf st before = texts limit (c.written st)
  exit : ∃ status, c.session.exit = some (.ended status) ∧ code = status.code?

theorem Step.complete (h : Step c c') (run : Relation.ReflTransGen Step (start id limit) c)
    (hc : c.Complete limit before code) : c'.Complete limit before code := by
  have hsame (st : Stream) :
      c'.session.reader st = c.session.reader st ∧ c'.written st = c.written st := by
    obtain ⟨g, hrun, hg⟩ := shows_of_run run st
    have hg' := h.shows_of_ended hg (Reading.sound_of_run hrun) (hc.ended st)
    exact ⟨hg'.reader.trans hg.reader.symm, hg'.written.trans hg.written.symm⟩
  obtain ⟨status, hexit, hcode⟩ := hc.exit
  refine ⟨fun st => ?_, fun st => ?_, status, h.exit_eq hexit, hcode⟩
  · rw [(hsame st).1]
    exact hc.ended st
  · rw [(hsame st).2]
    exact hc.told st

/-- What is told of a stream are its first texts. -/
theorem textsOf_isPrefix (run : Relation.ReflTransGen Step (start id limit) c) (st : Stream) :
    textsOf st c.reports <+: texts limit (c.written st) := by
  obtain ⟨g, hrun, hg⟩ := shows_of_run run st
  rw [hg.told, hg.written, texts, ← LineReader.cut_max_one]
  exact (Reading.sound_of_run hrun).isPrefix.map pieceText

/-- At the end of a stream they are all its texts. -/
theorem textsOf_eq (run : Relation.ReflTransGen Step (start id limit) c) {st : Stream}
    (ended : (c.session.reader st).ended = true) :
    textsOf st c.reports = texts limit (c.written st) := by
  obtain ⟨g, hrun, hg⟩ := shows_of_run run st
  rw [hg.reader] at ended
  rw [hg.told, hg.written, texts, ← LineReader.cut_max_one]
  exact congrArg (List.map pieceText) ((Reading.sound_of_run hrun).pieces_eq ended)

/-- If a scene reads what is left and both pipes have ended, everything was told. -/
theorem complete_of_bothEnded (run : Relation.ReflTransGen Step (start id limit) c)
    (ended : c.session.bothEnded = true) (rest : c.activity = .readingRest) :
    c.Complete limit c.reports (c.session.recorded.bind ExitStatus.code?) := by
  have hrecorded := recorded_of_run run
  have hended := bothEnded_iff.1 ended
  obtain ⟨status, hstatus⟩ := Option.isSome_iff_exists.1 (hrecorded.rest rest)
  refine ⟨hended, fun st => textsOf_eq run (hended st), status, hrecorded.exit status hstatus, ?_⟩
  rw [hstatus]
  rfl

theorem complete_of_run (run : Relation.ReflTransGen Step (start id limit) c)
    (told : c.reports = before ++ .exited .pipesEnded code :: after) :
    c.Complete limit before code := by
  induction run generalizing after with
  | refl => exact absurd told.symm (List.append_ne_nil_of_right_ne_nil _ (List.cons_ne_nil _ _))
  | tail run step ih =>
    obtain ⟨report, hreports, hended⟩ := step.reports
    rw [hreports] at told
    match report, after.eq_nil_or_concat' with
    | none, _ => exact step.complete run (ih ((List.append_nil _).symm.trans told))
    | some report, .inl hafter =>
      rw [hafter] at told
      obtain ⟨rfl, hlast⟩ := List.append_inj' told rfl
      obtain ⟨rfl, _⟩ := List.cons.inj hlast
      obtain ⟨ended, rest, rfl⟩ := hended code rfl
      exact step.complete run (complete_of_bothEnded run ended rest)
    | some report, .inr ⟨after', last, hafter⟩ =>
      rw [hafter, ← List.cons_append, ← List.append_assoc] at told
      obtain ⟨hbefore, _⟩ := List.append_inj' told rfl
      exact step.complete run (ih hbefore)

end Scene

end Overseer.ChildSession
