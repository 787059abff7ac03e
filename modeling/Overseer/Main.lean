import Overseer.Child.Launcher
import Overseer.CommandLine.Run

/-! ## The program

The command at a console. The analyser is not started from here: it runs on its own, and what it
writes to stderr is piped into the command, which takes it for a child that exits when its output
ends. -/

namespace Overseer.CommandLine.Console

/-- The variables of the environment that the command looks at. -/
def variableNames : List Text :=
  [filterVariable, formatVariable, noStyleVariable, styleVariable]
    ++ Argument.all.filterMap fun a => a.describe.variableName

/-- The environment of the program. -/
def environment : IO Environment := do
  let found ← variableNames.mapM fun name => do
    return (← IO.getEnv (String.ofList name)).map fun value => (name, Utf8.encode value.toList)
  return fun name => (found.filterMap id).lookup name

/-- Everything that comes from a stream. -/
partial def readAll (s : IO.FS.Stream) (before : ByteArray) : IO ByteArray := do
  let chunk ← s.read 65536
  if chunk.isEmpty then return before else readAll s (before ++ chunk)

/-- A child that was started by someone else. -/
def attached (b : Behaviour) : Host Launched :=
  { Launcher.host ⟨⟨[], []⟩, none, fun _ => b⟩ with
    launch := fun i w => (.now (), ⟨i :: w.started, b.session Launcher.childId⟩) }

/-- Every program is taken for installed, and its name for its path. -/
def machine : Machine := ⟨fun name => some (Utf8.encode name), .full, .sorted⟩

/-- Shows the log. -/
def showLog (env : Environment) (log : List LogLine) : IO Unit :=
  log.forM fun l =>
    IO.eprintln (String.ofList (if logsAsJson env then l.toJson.compact else l.text))

/-- Writes a file that the run has made to the disk. -/
def save (files : FileSystem) (path : Path) : IO Unit := do
  match files.read path with
  | .error _ => return
  | .ok content =>
    match path.parent? with
    | some (b :: rest) => IO.FS.createDirAll (String.ofList (Path.display (b :: rest)))
    | _ => pure ()
    IO.FS.writeBinFile (String.ofList path.display) ⟨content.toArray⟩

/-- Supervises the child whose output is on standard input. -/
def supervise (args : List Bytes) (env : Environment) (out : Option Path) : IO UInt32 := do
  let output ← match out with
    | some _ => readAll (← IO.getStdin) .empty
    | none => pure .empty
  let b : Behaviour := ⟨[], output.toList, .exits 0, false⟩
  match run machine (attached b) 0 b.eventBound args env ⟨[], []⟩ Launcher.idle with
  | none => return failureCode.toUInt32
  | some x =>
    IO.print (String.ofList x.stdout)
    x.usage.forM fun e => IO.eprint (String.ofList (printed env e.message))
    showLog env x.log
    out.forM fun path => save x.files path
    return x.exitCode.toUInt32

end Overseer.CommandLine.Console

/-- Runs the command with the arguments of the program. -/
def main (args : List String) : IO UInt32 := do
  let args := args.map fun arg => Overseer.Utf8.encode arg.toList
  let env ← Overseer.CommandLine.Console.environment
  let out := ((Overseer.CommandLine.Settings.read args env).toOption).map fun s => s.out
  Overseer.CommandLine.Console.supervise args env out
