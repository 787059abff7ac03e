import Overseer.CommandLine.Run
import Overseer.Proofs.CommandLine.Flags
import Overseer.Proofs.Report.LogFile
import Overseer.Proofs.Report.TextLog
import Overseer.Proofs.Supervisor.Launches
import Overseer.Proofs.Supervisor.PhasePath
import Overseer.Proofs.Supervisor.Verdict
import Overseer.Proofs.Text.Utf8

/-! ## What the exit code says

The command succeeds exactly if the log of its run was written. A tool that cannot be found is a
failure before anything was started or changed; whatever a run comes to is a result, and the log file
then holds that result and nothing else. The tool is started on the input as long as the name of the
input is text. -/

namespace Overseer

variable {σ : Type} {fs : FileSystem} {v : RunResult}

/-! ### The log file -/

/-- The text log of a result that a run can have is read back as that result. -/
theorem RunResult.read_textLog (order : Enumeration) (h : v.status ≠ .ok → v.findings = .empty) :
    TextLog.read (v.textLog order) = .ok v :=
  TextLog.read_write_of_perm (order.perm _) (or_iff_not_imp_left.2 h)

namespace CommandLine

open Supervisor

variable {m : Machine} {host : Host σ} {clock fuel n : Nat} {args : List Bytes}
  {env : Environment} {world : σ} {s : Settings} {r : RunReport σ}

/-- Where the log goes, and how it is written. -/
def Settings.logFile (s : Settings) : LogFile := ⟨s.out, s.format⟩

/-! ### Runs that are over -/

/-- Whatever the result is, only writing its log decides. -/
theorem finish_of_ok (m : Machine) (s : Settings) (before : List LogLine) (fs : FileSystem)
    (h : r.result = .ok v) :
    ((finish m s before fs r).exitCode = 0 ↔
        (s.logFile.persist m.order v fs m.user).1 = .ok ()) ∧
      (finish m s before fs r).files = (s.logFile.persist m.order v fs m.user).2 ∧
      (finish m s before fs r).world = r.world := by
  simp only [finish, h, Settings.logFile]
  generalize LogFile.persist ⟨s.out, s.format⟩ m.order v fs m.user = written
  obtain ⟨a, left⟩ := written
  cases a with
  | error _ => exact ⟨iff_of_false nofun nofun, rfl, rfl⟩
  | ok _ => exact ⟨iff_of_true rfl rfl, rfl, rfl⟩

/-! ### What is started -/

/-- The program gets the flag for 32 bits if that was asked for, and then the input as text. -/
theorem args_invocation (read : Settings.read args env = .ok s) :
    s.invocation.args =
      (if Argument.is32Bit.typed ∈ args.takeWhile (· ≠ separator) then ["-m32".toList] else [])
        ++ [Utf8.decode s.input] := by
  have hflag : s.is32Bit = true ↔ Argument.is32Bit.typed ∈ args.takeWhile (· ≠ separator) :=
    (Settings.flags_of_read read).1
  change (if s.is32Bit then ["-m32".toList] else []) ++ [Utf8.decode s.input] = _
  simp only [hflag]

/-! ### The whole command -/

theorem execute_of_missing (missing : m.probe s.tool = none) :
    execute m host clock fuel s fs world =
      some ⟨failureCode, [], none, [.parsed s, .failed (notFound s.tool)], fs, world⟩ := by
  unfold execute
  rw [missing]

theorem execute_of_found {path : Path} (found : m.probe s.tool = some path)
    (h : Supervisor.run host .builtin clock fuel s.invocation world = .finished r) :
    execute m host clock fuel s fs world = some (finish m s (opening s path) fs r) := by
  unfold execute
  rw [found, h]

/-- Settings that were read are used, and no more than the log is filtered. -/
theorem run_of_execute {x : Execution σ} (read : Settings.read args env = .ok s)
    (logging : (filterOf env s.debug).isSome)
    (h : execute m host clock fuel s fs world = some x) :
    ∃ log, run m host clock fuel args env fs world = some { x with log := log } := by
  obtain ⟨f, hf⟩ := Option.isSome_iff_exists.1 logging
  refine ⟨shown f x.log, ?_⟩
  simp only [run, read, hf, h, Option.map_some]

/-- A tool that is not found ends the command with a failure, before it starts anything or changes a
    file. If it is found, it is started once, on the input, whose name it gets as it is exactly if
    that is UTF-8. The command succeeds exactly if its user can write the log of the result, whatever
    the result is; the file then holds that log, with the findings in the order of the machine, and a
    text log is read back as the result. If the log cannot be written, every file still holds what it
    held. What becomes of the files before the log is written is left open: `fs` is how the run
    leaves them. -/
theorem run_exit_code (m : Machine) (clock : Nat) (fs : FileSystem)
    (read : Settings.read args env = .ok s) (logging : (filterOf env s.debug).isSome)
    (noOverflow : clock + 1000 * s.timeout < clockEnd)
    (launch : (host.launch s.invocation world).1 ≠ .never)
    (kill : ∀ d ph k, Supervises host .builtin (1000 * s.timeout) fuel
      (launched host s.invocation world d) ph k → (host.kill k.world).1 ≠ .never)
    (stops : ¬ ((host.timeline s.invocation world).Consumed .builtin (1000 * s.timeout) n ∧
      ((host.timeline s.invocation world).event n).Passes .builtin)) (enough : n < fuel) :
    ∃ x, run m host clock fuel args env fs world = some x ∧
      (m.probe s.tool = none → x.exitCode ≠ 0 ∧ x.files = fs ∧ x.world = world ∧
        ∀ asked, host.Notes asked → asked x.world = asked world) ∧
      ∀ path, m.probe s.tool = some path →
        (∀ asked, host.Notes asked → ∃ i last, asked x.world = asked world ++ [i] ∧
          i.program = s.tool ∧ i.args =
            (if Argument.is32Bit.typed ∈ args.takeWhile (· ≠ separator) then ["-m32".toList]
              else []) ++ [last] ∧
          (Utf8.encode last = s.input ↔ Utf8.Valid s.input)) ∧
        ∃ r v, Supervisor.run host .builtin clock fuel s.invocation world = .finished r ∧
          r.calls.count .launch = 1 ∧ r.result = .ok v ∧
          (x.exitCode = 0 ↔ (s.logFile.persist m.order v fs m.user).1 = .ok ()) ∧
          x.files = (s.logFile.persist m.order v fs m.user).2 ∧
          (x.exitCode = 0 → ∃ content, x.files.read s.out = .ok content ∧
            content = Utf8.encode (s.format.render m.order v) ∧
            (s.format = .text → TextLog.read (Utf8.decode content) = .ok v)) ∧
          (x.exitCode ≠ 0 → ∀ p content, fs.read p = .ok content →
            x.files.read p = .ok content) := by
  cases hprobe : m.probe s.tool with
  | none =>
    obtain ⟨log, hrun⟩ := run_of_execute read logging (execute_of_missing hprobe)
    exact ⟨_, hrun, fun _ => ⟨nofun, rfl, rfl, fun _ _ => rfl⟩, nofun⟩
  | some path =>
    obtain ⟨r, hr⟩ := exists_run (i := s.invocation) noOverflow launch (kill _ _ _) stops enough
    obtain ⟨-, hruns⟩ := run_eq_finished_iff.1 hr
    obtain ⟨v, _, _, hv, -, -, hempty⟩ := hruns.follows
    obtain ⟨hcode, hfiles, hworld⟩ := finish_of_ok m s (opening s path) fs hv
    obtain ⟨log, hrun⟩ := run_of_execute read logging (execute_of_found hprobe hr)
    refine ⟨_, hrun, nofun, fun _ _ => ⟨fun asked notes => ?_, r, v, hr, hruns.calls.launch.1, hv,
      hcode, hfiles, fun hzero => ?_, fun hfailed p content hread => ?_⟩⟩
    · refine ⟨s.invocation, _, ?_, rfl, args_invocation read, Utf8.valid_iff.symm⟩
      exact (congrArg asked hworld).trans (hruns.launches notes)
    · have hwritten := LogFile.read_of_persist (hcode.1 hzero)
      refine ⟨_, (congrArg (·.read s.out) hfiles).trans hwritten, rfl, fun htext => ?_⟩
      rw [Utf8.decode_encode, htext]
      exact RunResult.read_textLog m.order hempty
    · have hkept := (LogFile.grown_persist_of_ne (mt hcode.2 hfailed)).read hread
      exact (congrArg (·.read p) hfiles).trans hkept

/-- A run for 32 bits whose child never prints its first line, with a log in place of an earlier one:
    by a user who may write it, and by one who may not. -/
theorem run_exit_code_silent :
    let bytes (s : String) : Bytes := Utf8.encode s.toList
    let script : Script := ⟨.after 3 (.ok ()), .never, [], .never, .after 5 (.error (.killFailed []))⟩
    let host := (Script.host 7).noting
    let place : Place := [bytes "a.log", bytes "out"]
    let fs : FileSystem := ⟨[([bytes "out"], .directory), (place, .file 0o600 (bytes "ok\n"))], []⟩
    let order : Enumeration := ⟨fun s => s.toList.reverse, fun s => s.toList.reverse_perm⟩
    let m : Machine := ⟨Probe.ofList [("slllvm".toList, bytes "/opt/slllvm")], .full, order⟩
    let refused : Machine := { m with user := fun q => q ≠ place }
    let args := [bytes "--32", bytes "-t", bytes "1", bytes "--out=out/a.log", bytes "a.bc"]
    let env : Environment := fun _ => none
    let world : Script × List Invocation := (script, [])
    let s : Settings :=
      ⟨bytes "a.bc", 1, bytes "out/a.log", true, false, "slllvm".toList, .text⟩
    (Settings.read args env = .ok s ∧ (filterOf env s.debug).isSome ∧
      0 + 1000 * s.timeout < clockEnd ∧ (host.launch s.invocation world).1 ≠ .never ∧
      (∀ d ph k, Supervises host .builtin (1000 * s.timeout) 1
        (launched host s.invocation world d) ph k → (host.kill k.world).1 ≠ .never) ∧
      ¬ ((host.timeline s.invocation world).Consumed .builtin (1000 * s.timeout) 0 ∧
        ((host.timeline s.invocation world).event 0).Passes .builtin)) ∧
    (∃ x, run m host 0 1 args env fs world = some x ∧ x.exitCode = 0 ∧
      (∃ i last, x.world.2 = [i] ∧ i.program = "slllvm".toList ∧
        i.args = ["-m32".toList, last] ∧ Utf8.encode last = bytes "a.bc") ∧
      ∃ content v, x.files.read s.out = .ok content ∧
        TextLog.read (Utf8.decode content) = .ok v ∧ v.status = .timeout) ∧
    ∃ x, run refused host 0 1 args env fs world = some x ∧ x.exitCode = failureCode ∧
      x.files.read s.out = .ok (bytes "ok\n") := by
  intro bytes script host place fs order m refused args env world s
  have read : Settings.read args env = .ok s := by rfl
  have launch : (host.launch s.invocation world).1 ≠ .never := nofun
  have kill : ∀ d ph k, Supervises host .builtin (1000 * s.timeout) 1
      (launched host s.invocation world d) ph k → (host.kill k.world).1 ≠ .never := by
    intro d ph k course
    have hkill : k.world.1.kill = script.kill := by
      refine course.world (I := fun w => w.1.kill = script.kill) (fun _ hw => hw) ?_
        (fun _ hw => hw) rfl
      intro w hw
      exact (Script.kill_nextEvent w.1).trans hw
    change k.world.1.kill ≠ .never
    rw [hkill]
    exact nofun
  have stops : ¬ ((host.timeline s.invocation world).Consumed .builtin (1000 * s.timeout) 0 ∧
      ((host.timeline s.invocation world).event 0).Passes .builtin) := by
    rintro ⟨_, _, _, hevent, _⟩
    cases hevent
  refine ⟨⟨read, rfl, by decide, launch, kill, stops⟩, ?_, ?_⟩
  · obtain ⟨x, hrun, -, found⟩ := run_exit_code m 0 fs read (by rfl) (by decide) launch kill
      stops (by decide)
    obtain ⟨started, r, v, hr, -, hv, -, -, hlog, -⟩ := found _ (by rfl)
    obtain ⟨i, last, hi, hprogram, hargs, hlast⟩ := started Prod.snd (Script.host 7).notes_noting
    have hcode : (run m host 0 1 args env fs world).map (·.exitCode) = some 0 := by rfl
    rw [hrun] at hcode
    have hzero : x.exitCode = 0 := Option.some.inj hcode
    obtain ⟨content, hread, -, htext⟩ := hlog hzero
    refine ⟨x, hrun, hzero, ⟨i, last, hi, hprogram, hargs, hlast.2 ⟨_, rfl⟩⟩, content, v, hread,
      htext rfl, ?_⟩
    have hstatus : ∀ r', Supervisor.run host .builtin 0 1 s.invocation world = .finished r' →
        r'.result = .ok (.ofStatus .timeout .empty) := by
      rintro _ ⟨⟩
      rfl
    cases hv.symm.trans (hstatus r hr)
    rfl
  · obtain ⟨x, hrun, -, found⟩ := run_exit_code refused 0 fs read (by rfl) (by decide) launch kill
      stops (by decide)
    obtain ⟨-, _, _, -, -, -, -, -, -, hkept⟩ := found _ (by rfl)
    have hcode : (run refused host 0 1 args env fs world).map (·.exitCode) = some failureCode := by
      rfl
    rw [hrun] at hcode
    have hfailed : x.exitCode = failureCode := Option.some.inj hcode
    exact ⟨x, hrun, hfailed, hkept (by rw [hfailed]; decide) _ _ (by rfl)⟩

/-- The name of the input is one byte that begins no sequence. The command succeeds, and its program
    was asked for another file. -/
theorem not_run_passes_stray :
    let script : Script := ⟨.now (), .never, [], .never, .now ()⟩
    let m : Machine :=
      ⟨Probe.ofList [("slllvm".toList, Utf8.encode "/opt/slllvm".toList)], .full, .sorted⟩
    let args : List Bytes := [Argument.is32Bit.typed, [0xFF]]
    ∃ s x i, Settings.read args (fun _ => none) = .ok s ∧ s.input = [0xFF] ∧
      run m (Script.host 7).noting 0 1 args (fun _ => none) ⟨[], []⟩ (script, []) = some x ∧
      x.exitCode = 0 ∧ x.world.2 = [i] ∧
      i.args.map Utf8.encode = [Utf8.encode "-m32".toList, [0xEF, 0xBF, 0xBD]] ∧
      i.args.map Utf8.encode ≠ [Utf8.encode "-m32".toList, s.input] := by
  intro script m args
  let s : Settings := ⟨[0xFF], Argument.defaultTimeout, Utf8.encode Argument.defaultOut, true,
    false, Argument.defaultTool, .text⟩
  have hrun : (run m (Script.host 7).noting 0 1 args (fun _ => none) ⟨[], []⟩ (script, [])).map
      (fun x => (x.exitCode, x.world.2)) = some (0, [s.invocation]) := by rfl
  obtain ⟨x, hx, hseen⟩ := Option.map_eq_some_iff.1 hrun
  obtain ⟨hzero, hstarted⟩ := Prod.ext_iff.1 hseen
  exact ⟨s, x, s.invocation, by rfl, rfl, hx, hzero, hstarted, by decide, by decide⟩

end CommandLine

end Overseer
