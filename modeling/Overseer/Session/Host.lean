import Overseer.Invocation

/-! ## Sessions

A session is what a supervisor sees of one child: it is launched, its first line is read, then its
lines up to its exit, or what is left of its output is drained, and it is killed. A host says how a
world answers each of these calls and what becomes of it. Answers take time, and may never come; a
caller that gives a call up finds the world as it was before. -/

namespace Overseer

-- ---------------------------------------------------------------------------
-- What a session reports
-- ---------------------------------------------------------------------------

/-- The two outputs of a child. -/
inductive Stream where
  | stdout
  | stderr
deriving DecidableEq

namespace Stream

def label : Stream → Text
  | .stdout => "stdout".toList
  | .stderr => "stderr".toList

/-- The other output. -/
def other : Stream → Stream
  | .stdout => .stderr
  | .stderr => .stdout

end Stream

/-- A line of an output. -/
structure OutputLine where
  stream : Stream
  text : Text
deriving DecidableEq

/-- What happened next to a child. -/
inductive Event where
  | line (l : OutputLine)
  /-- The child is gone. There is no code if a signal ended it. -/
  | exited (code : Option Int)
deriving DecidableEq

/-- Why a call failed. -/
inductive ProcessError where
  | spawnFailed (reason : Text)
  | io (reason : Text)
  | killFailed (reason : Text)
deriving DecidableEq

def ProcessError.message : ProcessError → Text
  | .spawnFailed reason => "Spawn failed: ".toList ++ reason
  | .io reason => "IO error: ".toList ++ reason
  | .killFailed reason => "Process kill failed: ".toList ++ reason

-- ---------------------------------------------------------------------------
-- Hosts
-- ---------------------------------------------------------------------------

/-- How a call goes. Delays are in milliseconds. -/
inductive Reply (α : Type) where
  | never
  | after (delay : Nat) (answer : Except ProcessError α)

/-- A call that succeeds at once. -/
def Reply.now (a : α) : Reply α := .after 0 (.ok a)

/-- How a world answers. Each answer comes with the world after the call. -/
structure Host (σ : Type) where
  launch : Invocation → σ → Reply Unit × σ
  /-- The first line of stderr, if it has one. -/
  handshake : σ → Reply (Option Text) × σ
  nextEvent : σ → Reply Event × σ
  drain : σ → Reply (List OutputLine) × σ
  kill : σ → Reply Unit × σ
  /-- The id of the child, if it still has one. -/
  pid : σ → Option Nat

/-- The calls of a host. -/
inductive Call where
  | launch
  | handshake
  | nextEvent
  | drain
  | kill
deriving DecidableEq

end Overseer
