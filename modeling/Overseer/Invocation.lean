import Overseer.Text.Split
import Overseer.Text.Utf8

/-! ## Invocations

What is started for one run: a program, its flags, the file it is to analyse and how long it may
take. The name of the file is a byte string; as an argument it is text, so what is not UTF-8 in it
is replaced. -/

namespace Overseer

structure Invocation where
  program : Text
  flags : List Text
  input : Bytes
  /-- The time for the whole run, in milliseconds. -/
  budget : Nat
deriving DecidableEq

namespace Invocation

/-- The arguments of the program. -/
def args (i : Invocation) : List Text := i.flags ++ [Utf8.decode i.input]

/-- The program and its arguments, for logs. -/
def commandLine (i : Invocation) : Text := Text.spaced (i.program :: i.args)

/-- The budget in whole seconds. -/
def budgetSeconds (i : Invocation) : Nat := i.budget / 1000

end Invocation

/-- How a supervisor is set up for all its runs. -/
structure Configuration where
  program : Text
  /-- In milliseconds. -/
  budget : Nat
  /-- Whether the input is compiled for a 32-bit target. -/
  is32Bit : Bool
deriving DecidableEq

namespace Configuration

def flags (c : Configuration) : List Text := if c.is32Bit then ["-m32".toList] else []

/-- The invocation for one input. -/
def invocation (c : Configuration) (input : Bytes) : Invocation :=
  ⟨c.program, c.flags, input, c.budget⟩

end Configuration

end Overseer
