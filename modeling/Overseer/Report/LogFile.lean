import Overseer.Failure
import Overseer.Files.Change
import Overseer.Log.Entry

/-! ## The log file

The log of a result is written to a file, in place of what the file held before. Directories that
the path of the file lacks are made. The findings of a text log may come in any order. -/

namespace Overseer

structure LogFile where
  path : Path
  format : LogFormat
deriving DecidableEq

namespace LogFile

/-- The directory that has to be there before the file is written. -/
def directory? (f : LogFile) : Option Path := f.path.parent?.filter fun p => !p.isEmpty

/-- Makes the directory of the file. -/
def prepare (f : LogFile) (fs : FileSystem) (user : Access := .full) :
    Except OsError Unit × FileSystem :=
  match f.directory? with
  | none => (.ok (), fs)
  | some p => fs.ensureDirectories p user

/-- The content of the file for a result. -/
def content (f : LogFile) (order : Enumeration) (r : RunResult) : Bytes :=
  Utf8.encode (f.format.render order r)

/-- Writes the log of a result. -/
def persist (f : LogFile) (order : Enumeration) (r : RunResult) (fs : FileSystem)
    (user : Access := .full) : Except Failure Unit × FileSystem :=
  match f.prepare fs user with
  | (.error e, fs) => (.error (.io e), fs)
  | (.ok (), fs) =>
    match fs.write f.path (f.content order r) user with
    | .error e => (.error (.persistence f.path e), fs)
    | .ok fs => (.ok (), fs)

/-- The log entry about a log that was written. -/
def entry (f : LogFile) (r : RunResult) : Log.Entry :=
  ⟨.info, "Log file written".toList,
    [("path".toList, .text f.path.display), ("status".toList, .text r.status.token),
      ("findings".toList, .number r.findings.size)]⟩

end LogFile

end Overseer
