import Overseer.Child.Session
import Overseer.Proofs.Child.Reading

/-! ## Sessions, their children and their callers

A `Scene` is a session together with what its child has written and what its caller was told. Its
steps are all that can happen: the child writes, closes its pipes and exits at any time; the caller
asks for the first line or for an event, and may give up at any time; a pending call polls either
pipe, or takes the exit if there is one. -/

namespace Overseer.ChildSession

open LineReader (pieceText)

variable {s : ChildSession} {st st' : Stream}

/-! ### Polling one pipe -/

theorem reader_setReader_self (s : ChildSession) (r : LineReader) (st : Stream) :
    (s.setReader r st).reader st = r := by
  cases st <;> rfl

theorem reader_setReader_of_ne (s : ChildSession) (r : LineReader) (h : st' ≠ st) :
    (s.setReader r st).reader st' = s.reader st' := by
  cases st with
  | stdout =>
    cases st' with
    | stdout => exact absurd rfl h
    | stderr => rfl
  | stderr =>
    cases st' with
    | stdout => rfl
    | stderr => exact absurd rfl h

theorem exit_setReader (s : ChildSession) (r : LineReader) (st : Stream) :
    (s.setReader r st).exit = s.exit := by
  cases st <;> rfl

theorem recorded_setReader (s : ChildSession) (r : LineReader) (st : Stream) :
    (s.setReader r st).recorded = s.recorded := by
  cases st <;> rfl

theorem pollStream_of_ended (ended : (s.reader st).ended = true) :
    s.pollStream st = (.ready (.ok none), s) := if_pos ended

theorem pollStream_of_not_ended (ended : (s.reader st).ended ≠ true) :
    s.pollStream st =
      ((s.reader st).pollPiece.1.mapFound (fun piece => ⟨st, pieceText piece⟩),
        s.setReader (s.reader st).pollPiece.2 st) := by
  unfold pollStream
  rw [if_neg ended, LineReader.poll_eq]
  match (s.reader st).pollPiece with
  | (.pending, _) => rfl
  | (.ready (.error _), _) => rfl
  | (.ready (.ok none), _) => rfl
  | (.ready (.ok (some _)), _) => rfl

/-- Polling a pipe changes nothing but its reader. -/
theorem exists_pollStream_eq_setReader (s : ChildSession) (st : Stream) :
    ∃ r, (s.pollStream st).2 = s.setReader r st := by
  by_cases ended : (s.reader st).ended = true
  · refine ⟨s.reader st, ?_⟩
    rw [pollStream_of_ended ended]
    cases st <;> rfl
  · rw [pollStream_of_not_ended ended]
    exact ⟨_, rfl⟩

theorem exit_pollStream (s : ChildSession) (st : Stream) : (s.pollStream st).2.exit = s.exit := by
  obtain ⟨r, h⟩ := s.exists_pollStream_eq_setReader st
  rw [h, exit_setReader]

theorem recorded_pollStream (s : ChildSession) (st : Stream) :
    (s.pollStream st).2.recorded = s.recorded := by
  obtain ⟨r, h⟩ := s.exists_pollStream_eq_setReader st
  rw [h, recorded_setReader]

theorem reader_pollStream_of_ne (s : ChildSession) (h : st' ≠ st) :
    (s.pollStream st).2.reader st' = s.reader st' := by
  obtain ⟨r, hr⟩ := s.exists_pollStream_eq_setReader st
  rw [hr, reader_setReader_of_ne s r h]

theorem bothEnded_iff : s.bothEnded = true ↔ ∀ st, (s.reader st).ended = true := by
  refine Bool.and_eq_true_iff.trans ⟨?_, fun h => ⟨h .stdout, h .stderr⟩⟩
  rintro ⟨hout, herr⟩ st
  cases st with
  | stdout => exact hout
  | stderr => exact herr

/-! ### Scenes -/

/-- What a call to the session is waiting for. -/
inductive Activity where
  /-- There is no call. -/
  | idle
  /-- The first line of stderr. -/
  | handshake
  /-- A line of either pipe, or the exit. -/
  | reading
  /-- The exit: both pipes have ended. -/
  | waiting
  /-- A line that was left when the exit status was taken. -/
  | readingRest
deriving DecidableEq

/-- Why an exit is reported. -/
inductive ExitCause where
  | pipesEnded
  | graceOver
  | reportedBefore
deriving DecidableEq

/-- What a call tells its caller. -/
inductive Report where
  | firstLine (line : Option Text)
  | line (l : OutputLine)
  | exited (cause : ExitCause) (code : Option Int)
  | failed (e : ProcessError)
deriving DecidableEq

/-- The text of a stream that a report tells. -/
def Report.text? (st : Stream) : Report → Option Text
  | .firstLine text => if st = .stderr then text else none
  | .line l => if st = l.stream then some l.text else none
  | .exited _ _ => none
  | .failed _ => none

/-- The texts of a stream that reports tell, in order. -/
def textsOf (st : Stream) (reports : List Report) : List Text :=
  reports.filterMap (Report.text? st)

theorem textsOf_append (st : Stream) (reports more : List Report) :
    textsOf st (reports ++ more) = textsOf st reports ++ textsOf st more :=
  List.filterMap_append

namespace Activity

/-- The pipes that a call reads. -/
def readsFrom : Activity → Stream → Bool
  | .handshake, st => st = .stderr
  | .reading, _ | .readingRest, _ => true
  | .idle, _ | .waiting, _ => false

/-- Whether a call takes the exit status once there is one. -/
def takesExit : Activity → Bool
  | .reading | .waiting => true
  | .idle | .handshake | .readingRest => false

/-- What the caller is told after a pipe was polled, if the call is over then. -/
def report? (a : Activity) : Poll (Except Text (Option OutputLine)) → Option Report
  | .pending => none
  | .ready (.error reason) => some (.failed (.io reason))
  | .ready (.ok none) => if a = .handshake then some (.firstLine none) else none
  | .ready (.ok (some l)) =>
    if a = .handshake then some (.firstLine (some l.text)) else some (.line l)

end Activity

/-- A session, its child and its caller. -/
structure Scene where
  session : ChildSession
  /-- All bytes that the child has written to a pipe. -/
  written : Stream → Bytes
  activity : Activity
  /-- What the caller was told, in order. -/
  reports : List Report

namespace Scene

variable {c : Scene}

def start (id limit : Nat) : Scene := ⟨ChildSession.start id limit, fun _ => [], .idle, []⟩

/-- The child writes to a pipe. -/
def deliver (st : Stream) (bytes : Bytes) (c : Scene) : Scene :=
  { c with
    session := c.session.setReader ((c.session.reader st).deliver bytes) st,
    written := fun st' => if st' = st then c.written st' ++ bytes else c.written st' }

/-- What follows the bytes of a pipe becomes known. -/
def endPipe (st : Stream) (tail : Tail) (c : Scene) : Scene :=
  { c with session := c.session.setReader { c.session.reader st with tail := tail } st }

/-- Waiting for the child comes to something. -/
def settle (w : Waited) (c : Scene) : Scene :=
  { c with session := { c.session with exit := some w } }

/-- The caller calls or gives up, or the call waits for something else. -/
def turnTo (a : Activity) (c : Scene) : Scene := { c with activity := a }

/-- The call takes the exit status and reads what is left. -/
def takeExit (status : ExitStatus) (c : Scene) : Scene :=
  { c with session := { c.session with recorded := some status }, activity := .readingRest }

/-- The call goes on with the session `s`, or is over and tells its caller something. -/
def resume (s : ChildSession) (c : Scene) : Option Report → Scene
  | none => { c with session := s }
  | some report =>
    { c with session := s, activity := .idle, reports := c.reports ++ [report] }

/-- The call polls a pipe. -/
def poll (st : Stream) (c : Scene) : Scene :=
  c.resume (c.session.pollStream st).2 (c.activity.report? (c.session.pollStream st).1)

/-- The call reports the exit. -/
def exit (cause : ExitCause) (c : Scene) : Scene :=
  c.resume c.session.reportExit.2
    (some (.exited cause (c.session.recorded.bind ExitStatus.code?)))

/-- All that can happen. -/
inductive Step (c : Scene) : Scene → Prop
  -- The child and its pipes.
  | deliver (st : Stream) (bytes : Bytes) (opened : (c.session.reader st).tail = .opened) :
      Step c (c.deliver st bytes)
  | close (st : Stream) (opened : (c.session.reader st).tail = .opened) :
      Step c (c.endPipe st .closed)
  | breakOff (st : Stream) (reason : Text) (opened : (c.session.reader st).tail = .opened) :
      Step c (c.endPipe st (.broken reason))
  | settle (w : Waited) (running : ∀ status, c.session.exit ≠ some (.ended status)) :
      Step c (c.settle w)
  -- The caller.
  | askHandshake (idle : c.activity = .idle) : Step c (c.turnTo .handshake)
  | askEvent (idle : c.activity = .idle) (unfinished : c.session.finished = false) :
      Step c (c.turnTo (if c.session.recorded.isSome then .readingRest else .reading))
  | askAgain (idle : c.activity = .idle) (finished : c.session.finished = true) :
      Step c (c.exit .reportedBefore)
  | giveUp : Step c (c.turnTo .idle)
  -- The call.
  | poll (st : Stream) (reads : c.activity.readsFrom st = true) : Step c (c.poll st)
  | pipesEnded (reading : c.activity = .reading) (ended : c.session.bothEnded = true) :
      Step c (c.turnTo .waiting)
  | takeExit {status : ExitStatus} (waits : c.activity.takesExit = true)
      (exit : c.session.exit = some (.ended status)) : Step c (c.takeExit status)
  | waitFailed {reason : Text} (waits : c.activity.takesExit = true)
      (exit : c.session.exit = some (.failed reason)) :
      Step c (c.resume c.session (some (.failed (.io reason))))
  | exitAtEnd (rest : c.activity = .readingRest) (ended : c.session.bothEnded = true) :
      Step c (c.exit .pipesEnded)
  | exitAfterGrace (rest : c.activity = .readingRest) : Step c (c.exit .graceOver)

@[simp] theorem session_resume (s : ChildSession) (report : Option Report) :
    (c.resume s report).session = s := by
  cases report <;> rfl

@[simp] theorem written_resume (s : ChildSession) (report : Option Report) :
    (c.resume s report).written = c.written := by
  cases report <;> rfl

@[simp] theorem reports_resume (s : ChildSession) (report : Option Report) :
    (c.resume s report).reports = c.reports ++ report.toList := by
  cases report with
  | none => exact (List.append_nil _).symm
  | some _ => rfl

/-- A call that goes on is the same call. -/
theorem activity_resume (s : ChildSession) (report : Option Report) :
    (c.resume s report).activity = .idle ∨ (c.resume s report).activity = c.activity := by
  cases report with
  | none => exact .inr rfl
  | some _ => exact .inl rfl

end Scene

end Overseer.ChildSession
