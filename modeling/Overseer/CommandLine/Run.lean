import Overseer.CommandLine.Help
import Overseer.CommandLine.LogLine
import Overseer.CommandLine.Scan
import Overseer.Log.FilterReader
import Overseer.Supervisor.Run
import Overseer.Toolchain.Probe

/-! ## The command

The command reads its settings, makes sure that the analyser is installed, supervises one run of it
and writes the log file. Whatever the status of the run, the command succeeds if the log was
written. -/

namespace Overseer.CommandLine

-- ---------------------------------------------------------------------------
-- What is shown of the log
-- ---------------------------------------------------------------------------

/-- The parts of the program that log on their own. -/
def logTargets : List Text :=
  ["predwrap".toList, "predwrap_core".toList, "predwrap_infra_system".toList,
    "predwrap_infra_fs".toList]

/-- What is shown when the environment does not say otherwise. -/
def standardFilter (debug : Bool) : Log.Filter :=
  ⟨logTargets.map fun t =>
    .ofTarget t (if debug then Log.Level.debug.rank else Log.Level.warn.rank)⟩

/-- The variable that may say what is shown. -/
def filterVariable : Text := "RUST_LOG".toList

/-- The variable that says how it is shown. -/
def formatVariable : Text := "PREDWRAP_LOG_FORMAT".toList

/-- What is shown. A filter that is malformed, or no text, counts as if it were not there; none if it
    cannot even be taken apart. -/
def filterOf (env : Environment) (debug : Bool) : Option Log.Filter :=
  match ((env filterVariable).bind Utf8.read?).map Log.Filter.read with
  | none | some (.error .malformed) => some (standardFilter debug)
  | some (.error .splitCharacter) => none
  | some (.ok f) => some f

/-- Whether lines are shown as JSON objects rather than as text for people. -/
def logsAsJson (env : Environment) : Bool :=
  env formatVariable = some (Utf8.encode "json".toList)

/-- The lines that a filter shows. -/
def shown (f : Log.Filter) (lines : List LogLine) : List LogLine :=
  lines.filter fun l => f.shows l.target l.entry

-- ---------------------------------------------------------------------------
-- Running
-- ---------------------------------------------------------------------------

/-- What the command runs on: how programs are found, what its user may change, and in which order
    the findings of a result come. -/
structure Machine where
  probe : Probe
  user : Access
  order : Enumeration

/-- What the command did. -/
structure Execution (σ : Type) where
  exitCode : Nat
  stdout : Text
  /-- Why the command line was refused, if it was. -/
  usage : Option UsageError
  log : List LogLine
  files : FileSystem
  world : σ

/-- The exit code when the command breaks off: the budget cannot be added to the time, or the filter
    cannot be taken apart. -/
def brokenCode : Nat := 101

def usageCode : Nat := 2

def failureCode : Nat := 1

/-- A failure with its cause. -/
def chain (f : Failure) : Text :=
  match f with
  | .io cause => f.message ++ ": ".toList ++ cause.message
  | .domain fault => f.message ++ ": ".toList ++ fault.message
  | _ => f.message

def notFound (tool : Text) : Text :=
  '\x60' :: tool ++ '\x60' :: " was not found in PATH".toList

variable {σ : Type}

/-- What is logged before the analyser is started. -/
def opening (s : Settings) (path : Path) : List LogLine := [.parsed s, .found s.tool path]

/-- Writes the log file of a run that is over; `before` is what was logged before the run. -/
def finish (m : Machine) (s : Settings) (before : List LogLine) (fs : FileSystem)
    (r : RunReport σ) : Execution σ :=
  let log := before ++ r.records.map LogLine.ofRecord
  match r.result with
  | .error fault =>
    let reason := "Supervising the analyser failed: ".toList ++ chain (.domain fault)
    ⟨failureCode, [], none, log ++ [.failed reason], fs, r.world⟩
  | .ok result =>
    let file : LogFile := ⟨s.out, s.format⟩
    match file.persist m.order result fs m.user with
    | (.error f, fs) =>
      let reason := "Failed to write ".toList ++ s.out.display ++ ": ".toList ++ chain f
      ⟨failureCode, [], none, log ++ [.writing s.out, .failed reason], fs, r.world⟩
    | (.ok (), fs) =>
      ⟨0, [], none, log ++ [.writing s.out, .written file result], fs, r.world⟩

/-- Runs the command with settings; none if the run does not come to an end. -/
def execute (m : Machine) (host : Host σ) (clock fuel : Nat) (s : Settings) (fs : FileSystem)
    (world : σ) : Option (Execution σ) :=
  match m.probe s.tool with
  | none => some ⟨failureCode, [], none, [.parsed s, .failed (notFound s.tool)], fs, world⟩
  | some path =>
    match Supervisor.run host .builtin clock fuel s.invocation world with
    | .overflow => some ⟨brokenCode, [], none, opening s path, fs, world⟩
    | .unfinished => none
    | .finished r => some (finish m s (opening s path) fs r)

/-- Runs the command with its arguments. -/
def run (m : Machine) (host : Host σ) (clock fuel : Nat) (args : List Bytes) (env : Environment)
    (fs : FileSystem) (world : σ) : Option (Execution σ) :=
  match Settings.read args env with
  | .error (.usage e) => some ⟨usageCode, [], some e, [], fs, world⟩
  | .error .help => some ⟨0, printed env (Help.text env), none, [], fs, world⟩
  | .error .version => some ⟨0, versionText, none, [], fs, world⟩
  | .ok s =>
    match filterOf env s.debug with
    | none => some ⟨brokenCode, [], none, [], fs, world⟩
    | some f =>
      (execute m host clock fuel s fs world).map fun x => { x with log := shown f x.log }

end Overseer.CommandLine
