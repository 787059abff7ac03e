import Overseer.Child.Session

/-! ## Children that do the same in every run

Such a child writes fixed bytes to its two pipes and then exits, is ended by a signal, or stays
silent for ever. When it exits it may leave a helper behind that holds its pipes open. It takes a
moment until anything of it can be read. -/

namespace Overseer

/-- How a child ends after it has written everything. -/
inductive Ending where
  | exits (code : UInt8)
  | signals (signal : Nat)
  | hangs
deriving DecidableEq

/-- What waiting for such a child comes to. -/
def Ending.waited? : Ending → Option Waited
  | .exits code => some (.ended (.exited code))
  | .signals signal => some (.ended (.signalled signal))
  | .hangs => none

structure Behaviour where
  stdout : Bytes
  stderr : Bytes
  ending : Ending
  /-- Whether a helper holds the pipes open. -/
  lingers : Bool
deriving DecidableEq

namespace ChildSession

/-- The signal that ends whatever it is sent to. -/
def killSignal : Nat := 9

/-- Ends the child, unless it has ended before, and all its helpers. -/
def strike (s : ChildSession) : ChildSession :=
  { s with
    stdout := s.stdout.close, stderr := s.stderr.close,
    exit := some (s.exit.getD (.ended (.signalled killSignal))) }

/-- Kills a child that is gone as soon as it is signalled. -/
def killAtOnce (s : ChildSession) : ChildSession :=
  let s := if s.groupMayBeAlive then s.strike else s
  (s.kill s.exit).session

/-- Waits for an event: a poll, and another one after the grace if the child has exited. -/
def nextEvent (p : Preference) (s : ChildSession) : Reply Event × ChildSession :=
  match s.pollEvent p false with
  | (.ready a, s) => (.after 0 a, s)
  | (.pending, s) =>
    if s.recorded.isNone then (.never, s)
    else
      match s.pollEvent p true with
      | (.ready a, s) => (.after exitGrace a, s)
      | (.pending, s) => (.never, s)

/-- Waits for what a poll asks for, which takes `delay`. -/
def await (delay : Nat) : Poll (Except ProcessError α) × ChildSession → Reply α × ChildSession
  | (.ready a, s) => (.after delay a, s)
  | (.pending, s) => (.never, s)

/-- Reads events up to the exit, at most `fuel` of them. -/
def collect (p : Preference) :
    Nat → List OutputLine → ChildSession →
      Option (List OutputLine × Option Int × ChildSession)
  | 0, _, _ => none
  | fuel + 1, found, s =>
    match s.nextEvent p with
    | (.after _ (.ok (.line l)), s) => collect p fuel (l :: found) s
    | (.after _ (.ok (.exited code)), s) => some (found.reverse, code, s)
    | _ => none

end ChildSession

namespace Behaviour

/-- How long it takes until something of a child can be read, in milliseconds. -/
def startupTime : Nat := 1

/-- What a child leaves of a pipe that it wrote to. -/
def pipe (b : Behaviour) (bytes : Bytes) : LineReader :=
  let r := (LineReader.ofLimit LineReader.standardLimit).deliver bytes
  if b.ending = .hangs ∨ b.lingers then r else r.close

/-- A session in which the child has done all it does by itself. -/
def session (b : Behaviour) (id : Nat) : ChildSession :=
  { ChildSession.start id LineReader.standardLimit with
    stdout := b.pipe b.stdout, stderr := b.pipe b.stderr, exit := b.ending.waited? }

/-- More events than a session has. -/
def eventBound (b : Behaviour) : Nat := b.stdout.length + b.stderr.length + 2

end Behaviour

end Overseer
