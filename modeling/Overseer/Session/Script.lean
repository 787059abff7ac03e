import Overseer.Session.Host

/-! ## Scripts

A script fixes the reply to each call beforehand, with its delay. -/

namespace Overseer

structure Script where
  launch : Reply Unit
  handshake : Reply (Option Text)
  /-- The replies to reading events; after them the child has exited well. -/
  events : List (Reply Event)
  drain : Reply (List OutputLine)
  kill : Reply Unit

namespace Script

/-- The next event and the script without it. -/
def nextEvent (s : Script) : Reply Event × Script :=
  match s.events with
  | [] => (.now (.exited (some 0)), s)
  | r :: rest => (r, { s with events := rest })

/-- A child that follows a script, with a given id. -/
def host (id : Nat) : Host Script where
  launch _ s := (s.launch, s)
  handshake s := (s.handshake, s)
  nextEvent := nextEvent
  drain s := (s.drain, s)
  kill s := (s.kill, s)
  pid _ := some id

end Script

end Overseer
