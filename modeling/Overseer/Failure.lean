import Overseer.Files.OsError
import Overseer.Files.Path
import Overseer.Report.Format
import Overseer.Run.Fault

/-! ## Failures

What keeps a command from doing its work. -/

namespace Overseer

inductive Failure where
  | domain (fault : Fault)
  | io (cause : OsError)
  | config (reason : Text)
  /-- A file that cannot be written. -/
  | persistence (path : Path) (cause : OsError)
deriving DecidableEq

namespace Failure

def message : Failure → Text
  | .domain fault => "Domain error: ".toList ++ fault.message
  | .io cause => "IO error: ".toList ++ cause.message
  | .config reason => "Configuration error: ".toList ++ reason
  | .persistence path cause =>
    "Persistence error: cannot write ".toList ++ path.display ++ ": ".toList ++ cause.message

end Failure

/-- The format with a given token. -/
def LogFormat.read (s : Text) : Except Failure LogFormat :=
  match LogFormat.ofToken? s with
  | some f => .ok f
  | none => .error (.config ("unknown log format: ".toList ++ s))

end Overseer
