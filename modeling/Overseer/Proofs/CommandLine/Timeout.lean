import Overseer.CommandLine.Run
import Overseer.Proofs.Supervisor.Comparison
import Overseer.Proofs.Supervisor.PhasePath
import Overseer.Proofs.Text.Numeral
import Overseer.Proofs.Text.Utf8

/-! ## The timeout

Any number of seconds below 2⁶⁴ can be asked for, but clocks end before the largest of them are
over. A run returns a result exactly if its deadline is a time that clocks can show; otherwise the
command breaks off before it starts anything. -/

namespace Overseer.CommandLine

/-! ### What is given -/

namespace Scan

variable {P : Given → Prop} {s s' : Scan} {a : Argument} {value : Bytes}

/-- Everything that is given is put there, so what each value keeps the reading keeps. -/
def PutsKeep (P : Given → Prop) : Prop :=
  ∀ ⦃g g' : Given⦄ ⦃a : Argument⦄ ⦃value : Bytes⦄, P g → g.put a value = .ok g' → P g'

theorem PutsKeep.take (puts : PutsKeep P) (hs : P s.given) (h : s.take a value = .ok s') :
    P s'.given := by
  unfold Scan.take at h
  split at h
  · cases h
  split at h
  · next hput =>
    cases h
    exact puts hs hput
  · cases h
  · cases h
  · cases h

theorem PutsKeep.settle (puts : PutsKeep P) (hs : P s.given) (h : s.settle = .ok s') :
    P s'.given := by
  unfold Scan.settle at h
  split at h
  · cases h
    exact hs
  · cases h
  · exact puts.take (s := { s with pending := none }) hs h

theorem PutsKeep.attach (puts : PutsKeep P) (hs : P s.given) (h : s.attach a value = .ok s') :
    P s'.given := by
  unfold Scan.attach at h
  split at h
  · cases h
  · next hsettle => exact puts.take (puts.settle hs hsettle) h

theorem PutsKeep.expect (puts : PutsKeep P) (hs : P s.given) (h : s.expect a = .ok s') :
    P s'.given := by
  unfold Scan.expect at h
  split at h
  · cases h
  · next hsettle =>
    have hsettled := puts.settle hs hsettle
    cases h
    exact hsettled

theorem PutsKeep.raise (puts : PutsKeep P) (hs : P s.given) (h : s.raise a = .ok s') :
    P s'.given := by
  unfold Scan.raise at h
  split at h
  · cases h
  · cases h
  · cases h
  · next hsettle _ _ => exact puts.take (puts.settle hs hsettle) h

theorem PutsKeep.file (puts : PutsKeep P) (hs : P s.given) (h : s.file value = .ok s') :
    P s'.given := by
  unfold Scan.file at h
  split at h
  · cases h
  split at h
  · cases h
  · next hsettle =>
    have hsettled := puts.settle hs hsettle
    cases h
    exact hsettled

theorem PutsKeep.long {body : Bytes} (puts : PutsKeep P) (hs : P s.given)
    (h : s.long body = .ok s') : P s'.given := by
  simp only [Scan.long] at h
  split at h
  · cases h
  · split at h
    · exact puts.expect hs h
    · exact puts.raise hs h
  · split at h
    · exact puts.attach hs h
    · cases h

theorem PutsKeep.shorts {letters : Bytes} (puts : PutsKeep P) (hs : P s.given)
    (h : s.shorts letters = .ok s') : P s'.given := by
  induction letters generalizing s with
  | nil =>
    cases h
    exact hs
  | cons c rest ih =>
    unfold Scan.shorts at h
    split at h
    · cases h
    split at h
    · split at h
      · exact puts.expect hs h
      · exact puts.attach hs h
      · exact puts.attach hs h
    · split at h
      · cases h
      · next hraise => exact ih (puts.raise hs hraise) h

theorem PutsKeep.plain (puts : PutsKeep P) (hs : P s.given) (h : s.plain value = .ok s') :
    P s'.given := by
  unfold Scan.plain at h
  split at h
  · cases h
    exact hs
  · exact puts.file hs h

theorem PutsKeep.step {arg : Bytes} (puts : PutsKeep P) (hs : P s.given)
    (h : s.step arg = .ok s') : P s'.given := by
  unfold Scan.step at h
  split at h
  · exact puts.file hs h
  split at h
  · cases h
    exact hs
  · exact puts.long hs h
  · exact puts.shorts hs h
  · exact puts.plain hs h

theorem PutsKeep.fill {env : Environment} (puts : PutsKeep P) (hs : P s.given)
    (h : fill env s a = .ok s') : P s'.given := by
  unfold Scan.fill at h
  split at h
  · cases h
    exact hs
  split at h
  · cases h
    exact hs
  · exact puts.take hs h

/-- What one step keeps, a whole row of steps keeps. -/
theorem foldlM_keeps {α : Type} {f : Scan → α → Except Halt Scan} {xs : List α}
    (hf : ∀ {s s' x}, P s.given → f s x = .ok s' → P s'.given) (hs : P s.given)
    (h : xs.foldlM f s = .ok s') : P s'.given := by
  induction xs generalizing s with
  | nil =>
    cases h
    exact hs
  | cons x xs ih =>
    rw [List.foldlM_cons] at h
    match hfirst : f s x, h with
    | .ok t, h => exact ih (hf hs hfirst) h

/-- Arguments and environment give only what was put. -/
theorem PutsKeep.all {args : List Bytes} {env : Environment} (puts : PutsKeep P)
    (nothing : P .nothing) (h : all args env = .ok s) : P s.given := by
  unfold Scan.all at h
  split at h
  · cases h
  next hargs =>
  split at h
  · cases h
  next hsettle =>
  have hread := foldlM_keeps (fun hs => puts.step hs) nothing hargs
  exact foldlM_keeps (fun hs => puts.fill hs) (puts.settle hread hsettle) h

end Scan

/-! ### The timeout -/

/-- A value that has to be text is put only if it is. -/
theorem Given.putText_eq_ok {g g' : Given} {put : Given → Text → Except ValueFault Given}
    {value : Bytes} (h : g.putText put value = .ok g') : ∃ text, put g text = .ok g' := by
  unfold putText at h
  split at h
  · cases h
  · next text _ => exact ⟨text, h⟩

/-- Only a number of seconds that fits is put. -/
theorem putsKeep_timeout :
    Scan.PutsKeep fun g => ∀ n, g.timeout = some n → n < Given.timeoutBound := by
  intro g g' a value hg hput
  unfold Given.put at hput
  cases a with
  | timeout =>
    obtain ⟨text, hput⟩ := Given.putText_eq_ok hput
    unfold Given.putTimeout at hput
    split at hput
    · next n hread =>
      cases hput
      rintro _ ⟨⟩
      obtain ⟨_, _, _, _, _, hlt⟩ := (Numeral.read_eq_ok_iff (by decide)).1 hread
      exact hlt
    · cases hput
  | input | out =>
    dsimp only at hput
    split at hput
    · cases hput
    · cases hput
      exact hg
  | tool =>
    obtain ⟨text, hput⟩ := Given.putText_eq_ok hput
    cases hput
    exact hg
  | format =>
    obtain ⟨text, hput⟩ := Given.putText_eq_ok hput
    unfold Given.putFormat at hput
    split at hput
    · cases hput
      exact hg
    · cases hput
  | is32Bit | debug | help | version =>
    cases hput
    exact hg

/-- Settings that were read have a number of seconds that fits. -/
theorem Settings.timeout_lt {args : List Bytes} {env : Environment} {s : Settings}
    (h : Settings.read args env = .ok s) : s.timeout < Given.timeoutBound := by
  unfold Settings.read at h
  split at h
  · cases h
  next t hall =>
  split at h
  · next hgiven =>
    cases h
    obtain ⟨input, -, rfl⟩ := Option.map_eq_some_iff.1 hgiven
    have hfits := putsKeep_timeout.all nofun hall
    cases htimeout : t.given.timeout with
    | none => exact (by decide : Argument.defaultTimeout < Given.timeoutBound)
    | some n => exact hfits n htimeout
  · cases h

/-- Any number of seconds that fits can be asked for. -/
theorem Settings.read_timeout {n : Nat} (h : n < Given.timeoutBound) :
    Settings.read [Utf8.encode ("--timeout=".toList ++ Numeral.write n), Utf8.encode "a.bc".toList]
        (fun _ => none) =
      .ok ⟨Utf8.encode "a.bc".toList, n, Utf8.encode Argument.defaultOut, false, false,
        Argument.defaultTool, LogFormat.standard⟩ := by
  have hread : Numeral.read Given.timeoutBound (Numeral.write n) = .ok n :=
    (Numeral.read_eq_ok_iff (by decide)).2 ⟨_, .inl rfl, Numeral.write_ne_nil,
      fun _ => Numeral.isDigit_of_mem_write, Numeral.value_write, h⟩
  let timed : Given := { Given.nothing with timeout := some n }
  have hput : Given.nothing.put .timeout (Utf8.encode (Numeral.write n)) = .ok timed := by
    simp only [Given.put, Given.putText, Utf8.read?_encode, Given.putTimeout, hread, timed]
  have hstep : Scan.start.step (Utf8.encode ("--timeout=".toList ++ Numeral.write n)) =
      .ok ⟨timed, none, false, false⟩ := by
    rw [Utf8.encode_append]
    -- The name of the option ends at the equals sign, whatever the numeral is.
    change Scan.start.attach .timeout (Utf8.encode (Numeral.write n)) = _
    simp only [Scan.attach, Scan.settle, Scan.start, Scan.take, hput]
    rfl
  have hfile : (⟨timed, none, false, false⟩ : Scan).step (Utf8.encode "a.bc".toList) =
      .ok ⟨timed, some (.input, some (Utf8.encode "a.bc".toList)), true, false⟩ := by
    rfl
  unfold Settings.read Scan.all
  simp only [List.foldlM_cons, List.foldlM_nil, hstep, hfile, bind, Except.bind]
  rfl

/-- The numbers of seconds that can be asked for. -/
theorem Settings.exists_read_timeout_iff {n : Nat} :
    (∃ args env s, Settings.read args env = .ok s ∧ s.timeout = n) ↔ n < Given.timeoutBound := by
  constructor
  · rintro ⟨args, env, s, read, rfl⟩
    exact Settings.timeout_lt read
  · exact fun h => ⟨_, _, _, Settings.read_timeout h, rfl⟩

/-! ### Runs -/

section

open Supervisor

variable {σ : Type} {host : Host σ} {world : σ} {fuel n : Nat} {args : List Bytes}
  {env : Environment} {s : Settings}

/-- What is shown before the analyser is started: nothing if the filter cannot be taken apart. -/
def openingLog (env : Environment) (s : Settings) (path : Path) : List LogLine :=
  (filterOf env s.debug).elim [] fun f => shown f (opening s path)

/-- A deadline that clocks cannot show breaks the command off, and nothing is started. -/
theorem run_of_overflow {m : Machine} {clock : Nat} {path : Path}
    (read : Settings.read args env = .ok s) (found : m.probe s.tool = some path)
    (late : clockEnd ≤ clock + 1000 * s.timeout) (fs : FileSystem) :
    run m host clock fuel args env fs world =
      some ⟨brokenCode, [], none, openingLog env s path, fs, world⟩ := by
  have hrun : Supervisor.run host .builtin clock fuel s.invocation world = .overflow :=
    run_eq_overflow_iff.2 late
  have hexecute : execute m host clock fuel s fs world =
      some ⟨brokenCode, [], none, opening s path, fs, world⟩ := by
    unfold execute
    rw [found, hrun]
  simp only [run, read, hexecute, openingLog]
  cases filterOf env s.debug <;> rfl

/-- The command accepts the numbers of seconds below 2⁶⁴. With one of them, a run whose calls
    return comes to a result exactly if clocks can show its deadline. If they cannot, it breaks off,
    and so does the command, with nothing started, no file changed and nothing logged but what it
    was asked for and where it found the analyser. -/
theorem run_returns_iff (c : Classifier) (clock : Nat)
    (read : Settings.read args env = .ok s)
    (launch : (host.launch s.invocation world).1 ≠ .never)
    (kill : ∀ d ph k, Supervises host c (1000 * s.timeout) fuel
      (launched host s.invocation world d) ph k → (host.kill k.world).1 ≠ .never)
    (stops : ¬ ((host.timeline s.invocation world).Consumed c (1000 * s.timeout) n ∧
      ((host.timeline s.invocation world).event n).Passes c)) (enough : n < fuel) :
    (∀ m, (∃ args env s, Settings.read args env = .ok s ∧ s.timeout = m) ↔
        m < Given.timeoutBound) ∧
      ((∃ r v, Supervisor.run host c clock fuel s.invocation world = .finished r ∧
        r.result = .ok v) ↔ clock + 1000 * s.timeout < clockEnd) ∧
      (clockEnd ≤ clock + 1000 * s.timeout →
        Supervisor.run host c clock fuel s.invocation world = .overflow ∧
          ∀ (m : Machine) path fs, m.probe s.tool = some path →
            run m host clock fuel args env fs world =
              some ⟨brokenCode, [], none, openingLog env s path, fs, world⟩) := by
  refine ⟨fun _ => Settings.exists_read_timeout_iff, ⟨?_, fun shown => ?_⟩, fun late => ?_⟩
  · rintro ⟨r, v, hrun, -⟩
    exact (run_eq_finished_iff.1 hrun).1
  · obtain ⟨r, hrun⟩ := exists_run (i := s.invocation) shown launch (kill _ _ _) stops enough
    obtain ⟨v, _, _, hv, -⟩ := (run_eq_finished_iff.1 hrun).2.follows
    exact ⟨r, v, hrun, hv⟩
  · exact ⟨run_eq_overflow_iff.2 late, fun _ _ fs found => run_of_overflow read found late fs⟩

/-- A child that is done at once, with the longest timeout that clocks which have just started can
    show. -/
theorem run_returns_iff_longest :
    let script : Script := ⟨.after 3 (.ok ()),
      .now (some "Trying to compile a.c ... OK".toList),
      [.now (.line ⟨.stdout, "clEasyRun() took 1 s".toList⟩)], .now [], .after 5 (.ok ())⟩
    let host := Script.host 7
    let bytes (s : String) : Bytes := Utf8.encode s.toList
    let args := [bytes "-t", bytes "9223372036854775807", bytes "a.bc"]
    let env : Environment := fun _ => none
    let s : Settings := ⟨bytes "a.bc", 9223372036854775807, Utf8.encode Argument.defaultOut, false,
      false, Argument.defaultTool, .text⟩
    (Settings.read args env = .ok s ∧ (host.launch s.invocation script).1 ≠ .never ∧
      (∀ d ph k, Supervises host .builtin (1000 * s.timeout) 2
        (launched host s.invocation script d) ph k → (host.kill k.world).1 ≠ .never) ∧
      ¬ ((host.timeline s.invocation script).Consumed .builtin (1000 * s.timeout) 1 ∧
        ((host.timeline s.invocation script).event 1).Passes .builtin) ∧ 1 < 2) ∧
    ∃ r v, Supervisor.run host .builtin 0 2 s.invocation script = .finished r ∧
      r.result = .ok v := by
  intro script host bytes args env s
  have read : Settings.read args env = .ok s := by rfl
  have launch : (host.launch s.invocation script).1 ≠ .never := nofun
  have kill : ∀ d ph k, Supervises host .builtin (1000 * s.timeout) 2
      (launched host s.invocation script d) ph k → (host.kill k.world).1 ≠ .never := by
    intro d ph k course
    have hkill : k.world.kill = script.kill := course.kill_script rfl
    change k.world.kill ≠ .never
    rw [hkill]
    exact nofun
  have stops : ¬ ((host.timeline s.invocation script).Consumed .builtin (1000 * s.timeout) 1 ∧
      ((host.timeline s.invocation script).event 1).Passes .builtin) := by
    rintro ⟨-, _, _, hevent, -⟩
    cases hevent
  obtain ⟨-, returns, -⟩ := run_returns_iff .builtin 0 read launch kill stops (by decide)
  exact ⟨⟨read, launch, kill, stops, by decide⟩, returns.2 (by decide)⟩

/-- The same child with the longest timeout that the command accepts. -/
theorem not_run_returns_accepted :
    let script : Script := ⟨.after 3 (.ok ()),
      .now (some "Trying to compile a.c ... OK".toList),
      [.now (.line ⟨.stdout, "clEasyRun() took 1 s".toList⟩)], .now [], .after 5 (.ok ())⟩
    let bytes (s : String) : Bytes := Utf8.encode s.toList
    let args := [bytes "-t", bytes "18446744073709551615", bytes "a.bc"]
    ∃ s, Settings.read args (fun _ => none) = .ok s ∧ s.timeout < Given.timeoutBound ∧
      script.Returns ∧ ¬ ∃ clock fuel r v,
        Supervisor.run (Script.host 7) .builtin clock fuel s.invocation script = .finished r ∧
          r.result = .ok v := by
  intro script bytes args
  refine ⟨⟨bytes "a.bc", 18446744073709551615, Utf8.encode Argument.defaultOut, false, false,
    Argument.defaultTool, .text⟩, by rfl, by decide, ⟨nofun, nofun⟩, ?_⟩
  rintro ⟨clock, fuel, r, v, hrun, -⟩
  have hshown : clock + 1000 * 18446744073709551615 < clockEnd := (run_eq_finished_iff.1 hrun).1
  exact absurd (Nat.lt_of_le_of_lt (Nat.le_add_left _ _) hshown) (by decide)

end

end Overseer.CommandLine
