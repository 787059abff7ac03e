import Overseer.Child.Behaviour
import Overseer.Toolchain.Start

/-! ## Launching children from files

A launcher starts the programs of a file system, where it is known how each of them behaves. -/

namespace Overseer

structure Launcher where
  files : FileSystem
  searchPath : Option Bytes
  /-- What the program in a file does. -/
  behaviour : Path → Behaviour

/-- What was started, latest first, and the session of the child that was started last. -/
structure Launched where
  started : List Invocation
  session : ChildSession
deriving DecidableEq

namespace Launcher

/-- The id of every child. Nothing depends on it. -/
def childId : Nat := 1

/-- What the reader of lines takes first when it has a choice. -/
def preference : Preference := ⟨false, .stderr⟩

/-- Nothing was started. -/
def idle : Launched := ⟨[], ChildSession.start childId LineReader.standardLimit⟩

/-- Starts the program of an invocation. -/
def launch (l : Launcher) (i : Invocation) (w : Launched) : Reply Unit × Launched :=
  match i.start l.files l.searchPath with
  | .error fault =>
    (.after 0 (.error (.spawnFailed (i.program ++ ": ".toList ++ fault.message))), w)
  | .ok p => (.now (), ⟨i :: w.started, (l.behaviour p).session childId⟩)

/-- A call to the session. -/
def onSession (call : ChildSession → Reply α × ChildSession) (w : Launched) : Reply α × Launched :=
  ((call w.session).1, { w with session := (call w.session).2 })

/-- The launcher as a host. -/
def host (l : Launcher) : Host Launched where
  launch := l.launch
  handshake := onSession fun s => ChildSession.await Behaviour.startupTime s.pollHandshake
  nextEvent := onSession fun s => s.nextEvent preference
  drain := onSession fun s => ChildSession.await 0 (s.pollDrain preference.stream)
  kill := onSession fun s => (.now (), s.killAtOnce)
  pid w := w.session.pid

end Launcher

end Overseer
