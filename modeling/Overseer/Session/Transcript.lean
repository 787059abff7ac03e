import Overseer.Session.Host

/-! ## Transcripts

A transcript is what a child prints, in order. A launcher starts one session after the other, each
replaying the same transcript; it keeps the command lines it was given and counts the sessions that
were killed. -/

namespace Overseer

structure Transcript where
  handshake : Option Text
  events : List Event
  /-- Whether the child stays silent for ever after its events, instead of exiting. -/
  hang : Bool
deriving DecidableEq

-- ---------------------------------------------------------------------------
-- Sessions
-- ---------------------------------------------------------------------------

/-- A child in the middle of its transcript. -/
structure Replay where
  rest : Transcript
  alive : Bool
deriving DecidableEq

namespace Replay

def start (t : Transcript) : Replay := ⟨t, true⟩

/-- The handshake is handed out once. -/
def handshake (r : Replay) : Reply (Option Text) × Replay :=
  match r.rest.handshake with
  | some line => (.now (some line), { r with rest := { r.rest with handshake := none } })
  | none => (if r.rest.hang then .never else .now none, r)

/-- The next event. An exit stays the next event for ever. -/
def nextEvent (r : Replay) : Reply Event × Replay :=
  if !r.alive then (.now (.exited none), r)
  else
    match r.rest.events with
    | .exited code :: _ =>
      (.now (.exited code), { r with rest := { r.rest with events := [.exited code] } })
    | .line l :: events => (.now (.line l), { r with rest := { r.rest with events := events } })
    | [] => (if r.rest.hang then .never else .now (.exited (some 0)), r)

/-- All lines that are left. The events are used up, exits too. -/
def drain (r : Replay) : Reply (List OutputLine) × Replay :=
  let lines := r.rest.events.filterMap fun
    | .line l => some l
    | .exited _ => none
  (.now lines, { r with rest := { r.rest with events := [] } })

def kill (r : Replay) : Reply Unit × Replay := (.now (), { r with alive := false })

def pid (r : Replay) : Option Nat := if r.alive then some 4242 else none

end Replay

-- ---------------------------------------------------------------------------
-- Launchers
-- ---------------------------------------------------------------------------

/-- A launcher and the session it started last. -/
structure ReplayLauncher where
  transcript : Transcript
  /-- Why no child can be started, if so. -/
  spawnError : Option Text
  /-- The command lines of all launches, latest first. -/
  launched : List Text
  /-- How many sessions were killed. -/
  kills : Nat
  session : Replay
deriving DecidableEq

namespace ReplayLauncher

/-- A launcher that has started nothing. -/
def ofTranscript (t : Transcript) : ReplayLauncher := ⟨t, none, [], 0, ⟨t, false⟩⟩

/-- A launcher that cannot start anything. -/
def failing (reason : Text) : ReplayLauncher :=
  { ofTranscript ⟨none, [], false⟩ with spawnError := some reason }

/-- The command lines of all launches, in order. -/
def launches (l : ReplayLauncher) : List Text := l.launched.reverse

def launch (i : Invocation) (l : ReplayLauncher) : Reply Unit × ReplayLauncher :=
  let l := { l with launched := i.commandLine :: l.launched }
  match l.spawnError with
  | some reason => (.after 0 (.error (.spawnFailed reason)), l)
  | none => (.now (), { l with session := .start l.transcript })

/-- A call to the session. -/
def onSession (call : Replay → Reply α × Replay) (l : ReplayLauncher) : Reply α × ReplayLauncher :=
  ((call l.session).1, { l with session := (call l.session).2 })

/-- Kills the session; it counts when it was alive. -/
def kill (l : ReplayLauncher) : Reply Unit × ReplayLauncher :=
  onSession Replay.kill { l with kills := if l.session.alive then l.kills + 1 else l.kills }

/-- The launcher as a host. -/
def host : Host ReplayLauncher where
  launch := launch
  handshake := onSession Replay.handshake
  nextEvent := onSession Replay.nextEvent
  drain := onSession Replay.drain
  kill := kill
  pid l := l.session.pid

end ReplayLauncher

end Overseer
