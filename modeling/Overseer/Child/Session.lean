import Overseer.Child.LineReader
import Overseer.Session.Host
import Overseer.Text.Numeral

/-! ## The session of a running child

A child writes to two pipes and exits at some time; the session reads both pipes line by line and
takes the exit status once there is one. Where both a line and the exit are at hand, or lines of
both pipes, either may be taken first: the operations are told which. The pipes may stay open after
the exit, because a helper of the child still holds them; then the session waits for them only for a
while.

Each operation here is one poll. What is pending may be given up and asked for again. -/

namespace Overseer

/-- How a child ended. -/
inductive ExitStatus where
  | exited (code : UInt8)
  | signalled (signal : Nat)
deriving DecidableEq

/-- The code of a child that was not ended by a signal. -/
def ExitStatus.code? : ExitStatus → Option Int
  | .exited code => some code.toNat
  | .signalled _ => none

/-- What waiting for a child comes to. -/
inductive Waited where
  | ended (status : ExitStatus)
  | failed (reason : Text)
deriving DecidableEq

/-- Which of two things that are at hand is taken first. -/
structure Preference where
  /-- The exit before the pipes. -/
  exitFirst : Bool
  stream : Stream
deriving DecidableEq

structure ChildSession where
  id : Nat
  stdout : LineReader
  stderr : LineReader
  /-- What waiting for the child comes to, once it does. -/
  exit : Option Waited
  /-- The exit status, once the session has taken it. -/
  recorded : Option ExitStatus
  /-- Whether the exit was reported. -/
  finished : Bool
deriving DecidableEq

namespace ChildSession

/-- How long the pipes may stay open after the exit, in milliseconds. -/
def exitGrace : Nat := 100

/-- How long a killed child may take to be gone, in milliseconds. -/
def reapLimit : Nat := 2000

/-- The session of a child that has just been started. -/
def start (id limit : Nat) : ChildSession :=
  ⟨id, .ofLimit limit, .ofLimit limit, none, none, false⟩

def reader (s : ChildSession) : Stream → LineReader
  | .stdout => s.stdout
  | .stderr => s.stderr

def setReader (s : ChildSession) (r : LineReader) : Stream → ChildSession
  | .stdout => { s with stdout := r }
  | .stderr => { s with stderr := r }

/-- Whether both pipes were read to their ends. -/
def bothEnded (s : ChildSession) : Bool := s.stdout.ended && s.stderr.ended

/-- The id of the child until its exit status was taken. -/
def pid (s : ChildSession) : Option Nat :=
  match s.recorded with
  | none => some s.id
  | some _ => none

-- ---------------------------------------------------------------------------
-- Lines
-- ---------------------------------------------------------------------------

/-- Asks one pipe for a line; `none` is its end. -/
def pollStream (st : Stream) (s : ChildSession) :
    Poll (Except Text (Option OutputLine)) × ChildSession :=
  if (s.reader st).ended then (.ready (.ok none), s)
  else
    match (s.reader st).poll with
    | (.pending, r) => (.pending, s.setReader r st)
    | (.ready (.error reason), r) => (.ready (.error reason), s.setReader r st)
    | (.ready (.ok line), r) => (.ready (.ok (line.map (⟨st, ·⟩))), s.setReader r st)

/-- Asks both pipes for a line, beginning with `first`; `none` is the end of both. -/
def pollLine (first : Stream) (s : ChildSession) :
    Poll (Except Text (Option OutputLine)) × ChildSession :=
  match s.pollStream first with
  | (.ready (.ok none), s) => s.pollStream first.other
  | (.pending, s) =>
    match s.pollStream first.other with
    | (.ready (.ok none), s) => (.pending, s)
    | answer => answer
  | answer => answer

/-- Asks stderr for its first line. -/
def pollHandshake (s : ChildSession) : Poll (Except ProcessError (Option Text)) × ChildSession :=
  match s.pollStream .stderr with
  | (.pending, s) => (.pending, s)
  | (.ready (.error reason), s) => (.ready (.error (.io reason)), s)
  | (.ready (.ok line), s) => (.ready (.ok (line.map (·.text))), s)

-- ---------------------------------------------------------------------------
-- Events
-- ---------------------------------------------------------------------------

/-- Reports the exit. -/
def reportExit (s : ChildSession) : Poll (Except ProcessError Event) × ChildSession :=
  (.ready (.ok (.exited (s.recorded.bind ExitStatus.code?))), { s with finished := true })

/-- Asks for an event when the exit status was taken: a line that is left, or the exit when there is
    none or the grace is over. -/
def pollAfterExit (first : Stream) (graceOver : Bool) (s : ChildSession) :
    Poll (Except ProcessError Event) × ChildSession :=
  match s.pollLine first with
  | (.ready (.error reason), s) => (.ready (.error (.io reason)), s)
  | (.ready (.ok (some l)), s) => (.ready (.ok (.line l)), s)
  | (.ready (.ok none), s) => s.reportExit
  | (.pending, s) => if graceOver then s.reportExit else (.pending, s)

/-- Takes the exit status if there is one and goes on, or has to wait for it. Waiting may fail, and
    then nothing has changed. -/
def pollExit (first : Stream) (graceOver : Bool) (s : ChildSession) :
    Poll (Except ProcessError Event) × ChildSession :=
  match s.exit with
  | none => (.pending, s)
  | some (.failed reason) => (.ready (.error (.io reason)), s)
  | some (.ended status) => { s with recorded := some status }.pollAfterExit first graceOver

/-- Asks the pipes for a line, and then for the exit. -/
def pollLineThenExit (first : Stream) (graceOver : Bool) (s : ChildSession) :
    Poll (Except ProcessError Event) × ChildSession :=
  match s.pollLine first with
  | (.ready (.error reason), s) => (.ready (.error (.io reason)), s)
  | (.ready (.ok (some l)), s) => (.ready (.ok (.line l)), s)
  | (.ready (.ok none), s) | (.pending, s) => s.pollExit first graceOver

/-- Asks for the next event. `graceOver` says that this call has waited for the pipes of an exited
    child as long as it may. -/
def pollEvent (p : Preference) (graceOver : Bool) (s : ChildSession) :
    Poll (Except ProcessError Event) × ChildSession :=
  if s.finished then s.reportExit
  else if s.recorded.isSome then s.pollAfterExit p.stream graceOver
  else if p.exitFirst && s.exit.isSome then s.pollExit p.stream graceOver
  else s.pollLineThenExit p.stream graceOver

-- ---------------------------------------------------------------------------
-- What is left
-- ---------------------------------------------------------------------------

/-- How many bytes have arrived on either pipe and were not handed out. -/
def unread (s : ChildSession) : Nat :=
  s.stdout.buffer.length + s.stdout.arrived.length + s.stderr.buffer.length
    + s.stderr.arrived.length

/-- Reads lines up to the end of both pipes, at most `fuel` of them; `found` are those read before,
    latest first. -/
def drainLoop (first : Stream) :
    Nat → List OutputLine → ChildSession → Poll (Except ProcessError (List OutputLine)) × ChildSession
  | 0, _, s => (.pending, s)
  | fuel + 1, found, s =>
    match s.pollLine first with
    | (.pending, s) => (.pending, s)
    | (.ready (.error reason), s) => (.ready (.error (.io reason)), s)
    | (.ready (.ok none), s) => (.ready (.ok found.reverse), s)
    | (.ready (.ok (some l)), s) => drainLoop first fuel (l :: found) s

/-- Asks for all lines up to the end of both pipes. A line takes at least one byte. -/
def pollDrain (first : Stream) (s : ChildSession) :
    Poll (Except ProcessError (List OutputLine)) × ChildSession :=
  drainLoop first (s.unread + 1) [] s

-- ---------------------------------------------------------------------------
-- Killing
-- ---------------------------------------------------------------------------

/-- Whether the child, or a helper that holds its pipes, may still be there. -/
def groupMayBeAlive (s : ChildSession) : Bool := s.recorded.isNone || !s.bothEnded

/-- What killing does. -/
structure Killing where
  /-- Whether the child and its helpers were signalled. -/
  signalled : Bool
  answer : Except ProcessError Unit
  session : ChildSession

def lateReason : Text :=
  "analyser not reaped within ".toList ++ Numeral.write reapLimit ++ "ms".toList

/-- Signals what may still be there, and takes the exit status unless that was done before. Nothing
    has come of waiting if the child is still not gone after `reapLimit`. -/
def kill (waited : Option Waited) (s : ChildSession) : Killing :=
  match s.recorded, waited with
  | some _, _ => ⟨s.groupMayBeAlive, .ok (), s⟩
  | none, some (.ended status) => ⟨s.groupMayBeAlive, .ok (), { s with recorded := some status }⟩
  | none, some (.failed reason) => ⟨s.groupMayBeAlive, .error (.killFailed reason), s⟩
  | none, none => ⟨s.groupMayBeAlive, .error (.killFailed lateReason), s⟩

/-- Whether the child and its helpers are signalled when the session is let go of. -/
def signalsWhenDropped (s : ChildSession) : Bool := s.recorded.isNone

end ChildSession

end Overseer
