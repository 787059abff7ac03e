import Overseer.Diagnostic.Signal
import Overseer.Log.Entry
import Overseer.Run.Phase
import Overseer.Session.Host
import Overseer.Text.Quoted

/-! ## The record of a run

Everything a supervised run notes about itself, and how each note is written as a log entry. -/

namespace Overseer

inductive Record where
  | starting (command : Text) (budgetSeconds : Nat)
  | launchFailed (e : ProcessError)
  | transition (source target : Phase)
  | handshakeFailed (e : ProcessError)
  | handshakeTimeout
  /-- The first line was missing or does not say that the input was compiled. -/
  | handshakeRejected (line : Option Text)
  | handshakeAccepted (pid : Option Nat)
  /-- A line that was left when the handshake was rejected. -/
  | leftover (l : OutputLine)
  | drainFailed (e : ProcessError)
  | drainTimeout
  | timeout
  | readFailed (e : ProcessError)
  | exited (code : Option Int)
  | output (l : OutputLine)
  | unsupportedFeature (line : Text)
  | unclassifiedError (line : Text)
  | completion (line : Text)
  | killFailed (e : ProcessError) (pid : Option Nat)
  | finished (status : RunStatus) (findings : Nat) (elapsed : Nat)
deriving DecidableEq

namespace Record

open Log (Level FieldValue Entry)

def lineFields (l : OutputLine) : List (Text × FieldValue) :=
  [("stream".toList, .text l.stream.label), ("line".toList, .text l.text)]

def errorField (e : ProcessError) : Text × FieldValue := ("error".toList, .text e.message)

def pidField (pid : Option Nat) : Text × FieldValue :=
  ("pid".toList, .text (Text.optionally Numeral.write pid))

/-- A record as a log entry. -/
def entry : Record → Entry
  | .starting command seconds =>
    ⟨.info, "Starting analyser".toList,
      [("command".toList, .text command), ("timeout_secs".toList, .number seconds)]⟩
  | .launchFailed e => ⟨.error, "Failed to start analyser".toList, [errorField e]⟩
  | .transition source target =>
    ⟨.debug, "Supervisor state transition".toList,
      [("from".toList, .text source.label), ("to".toList, .text target.label)]⟩
  | .handshakeFailed e => ⟨.warn, "Failed to read analyser handshake".toList, [errorField e]⟩
  | .handshakeTimeout =>
    ⟨.warn, "Timeout while waiting for the analyser to compile its input".toList, []⟩
  | .handshakeRejected line =>
    ⟨.warn, "Analyser failed to compile the input file".toList,
      [("handshake".toList, .text (Text.optionally Text.quoted line))]⟩
  | .handshakeAccepted pid =>
    ⟨.debug, "Analyser compiled the input file".toList, [pidField pid]⟩
  | .leftover l => ⟨.warn, "Analyser output".toList, lineFields l⟩
  | .drainFailed e => ⟨.warn, "Failed to drain analyser output".toList, [errorField e]⟩
  | .drainTimeout => ⟨.warn, "Timeout while draining analyser output".toList, []⟩
  | .timeout => ⟨.warn, "Timeout, killing analyser".toList, []⟩
  | .readFailed e => ⟨.warn, "Failed to read analyser output".toList, [errorField e]⟩
  | .exited code =>
    ⟨.warn, "Analyser has not finished gracefully".toList,
      [("exit_code".toList, .text (Text.optionally Numeral.writeInt code))]⟩
  | .output l => ⟨.trace, "Analyser output".toList, lineFields l⟩
  | .unsupportedFeature line =>
    ⟨.info, "Analyser encountered an unsupported feature, result is unknown".toList,
      [("line".toList, .text line)]⟩
  | .unclassifiedError line =>
    ⟨.info, "Analyser reported an unknown error".toList, [("line".toList, .text line)]⟩
  | .completion line => ⟨.debug, "Analyser finished".toList, [("line".toList, .text line)]⟩
  | .killFailed e pid => ⟨.warn, "Failed to kill analyser".toList, [errorField e, pidField pid]⟩
  | .finished status findings elapsed =>
    ⟨.info, "Analyser run finished".toList,
      [("status".toList, .text status.token), ("findings".toList, .number findings),
        ("elapsed_ms".toList, .number elapsed)]⟩

/-- The phase that a record says was entered. -/
def entered? : Record → Option Phase
  | .transition _ target => some target
  | _ => none

end Record

end Overseer
