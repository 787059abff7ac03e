import Mathlib.Data.List.Basic
import Overseer.Proofs.Session.Replay
import Overseer.Proofs.Supervisor.Launches
import Overseer.Proofs.Supervisor.Lockstep
import Overseer.Proofs.Supervisor.Verdict

/-! ## Runs one after the other

A launcher of sessions that replay a transcript can be used again and again: each run goes as the
first run of a new launcher would, and the launcher accounts for all of them. One run keeps what the
launcher keeps, so any number of them does. -/

namespace Overseer

/-! ### Series -/

/-- A run that is to begin at a given time. -/
structure Start where
  clock : Nat
  invocation : Invocation

/-- Clocks can show the deadline of the run. -/
def Start.Shown (s : Start) : Prop := s.clock + s.invocation.budget < Supervisor.clockEnd

namespace Supervisor

variable {σ : Type}

/-- Runs one after the other, each in the world that the one before left. -/
def runEach (host : Host σ) (c : Classifier) (fuel : Nat) : List Start → σ → List (Outcome σ)
  | [], _ => []
  | s :: rest, w =>
    match run host c s.clock fuel s.invocation w with
    | .finished r => .finished r :: runEach host c fuel rest r.world
    | outcome => [outcome]

/-- Runs that all begin at the same time are a case of it. -/
theorem runAll_eq_runEach (host : Host σ) (c : Classifier) (clock fuel : Nat)
    (is : List Invocation) (w : σ) :
    runAll host c clock fuel is w = runEach host c fuel (is.map (⟨clock, ·⟩)) w := by
  induction is generalizing w with
  | nil => rfl
  | cons i is ih =>
    simp only [runAll, List.map_cons, runEach]
    cases run host c clock fuel i w with
    | overflow => rfl
    | unfinished => rfl
    | finished r => simp only [ih]

/-- If one run comes to an end and keeps what `Kept` says of the invocations before it, with its own
    invocation added, then all runs of a series come to an end and keep it. -/
theorem exists_runEach {host : Host σ} {c : Classifier} {fuel : Nat}
    (Kept : List Invocation → σ → Prop) (Told : Invocation → RunReport σ → Prop)
    (step : ∀ done w s, Kept done w → Start.Shown s →
      ∃ r, run host c s.clock fuel s.invocation w = .finished r ∧
        Told s.invocation r ∧ Kept (done ++ [s.invocation]) r.world)
    {starts : List Start} (shown : ∀ s ∈ starts, s.Shown) {done : List Invocation} {w : σ}
    (kept : Kept done w) :
    ∃ rs : List (RunReport σ), runEach host c fuel starts w = rs.map .finished ∧
      rs.length = starts.length ∧
      ∀ n s r, starts[n]? = some s → rs[n]? = some r →
        Told s.invocation r ∧
          Kept (done ++ (starts.take (n + 1)).map (·.invocation)) r.world := by
  induction starts generalizing done w with
  | nil => exact ⟨[], rfl, rfl, nofun⟩
  | cons s starts ih =>
    obtain ⟨r, hrun, told, hkept⟩ := step done w s kept (shown s List.mem_cons_self)
    obtain ⟨rs, hrest, hlen, hall⟩ := ih (fun s hs => shown s (List.mem_cons_of_mem _ hs)) hkept
    refine ⟨r :: rs, ?_, congrArg (· + 1) hlen, ?_⟩
    · simp only [runEach, hrun, hrest, List.map_cons]
    · intro n s' r' hs hr
      cases n with
      | zero =>
        cases hs
        cases hr
        exact ⟨told, by simpa using hkept⟩
      | succ n =>
        have := hall n s' r' hs hr
        simpa using this

end Supervisor

/-! ### One run -/

namespace ReplayLauncher

open Supervisor

variable {c : Classifier} {fuel clock kills : Nat} {i : Invocation} {t : Transcript}
  {cause : Option Text} {done done' : List Invocation} {l l' : ReplayLauncher}
  {r : RunReport ReplayLauncher}

/-- Two launchers whose last sessions are in the same place. -/
def SameSession (l l' : ReplayLauncher) : Prop := l.session = l'.session

/-- From the launch on, nothing but the session counts. -/
theorem agrees_host : host.Agrees SameSession host := by
  have agrees {α : Type} (call : Replay → Reply α × Replay) {l l' : ReplayLauncher}
      (h : SameSession l l') : Reply.Agrees SameSession (onSession call l) (onSession call l') := by
    unfold SameSession at h
    refine ⟨?_, ?_⟩ <;> simp only [SameSession, onSession, h]
  refine ⟨agrees _, agrees _, agrees _, fun h => ?_, fun h => ?_⟩
  · exact ⟨rfl, congrArg (fun r => (Replay.kill r).2) h⟩
  · exact congrArg Replay.pid h.symm

/-- What a run comes to does not depend on what its launcher was used for before. -/
theorem Used.matches {kills' : Nat} (h : Used t cause done kills l)
    (h' : Used t cause done' kills' l') (hr : Runs host c fuel i l r) :
    ∃ r', Runs host c fuel i l' r' ∧ r.Matches r' := by
  have sameLaunch : (host.launch i l').1 = (host.launch i l).1 := by
    cases cause with
    | none => rw [(h.launch_ok i).1, (h'.launch_ok i).1]
    | some reason => rw [h.launch_failed i, h'.launch_failed i]
  refine hr.inStep agrees_host sameLaunch fun launched => ?_
  cases cause with
  | none => exact (h.launch_ok i).2.trans (h'.launch_ok i).2.symm
  | some reason => exact absurd ⟨0, _, h.launch_failed i⟩ launched.not_fails

/-- A launcher that cannot start anything has one more launch to account for after a run, which is
    an error. -/
theorem Used.run_failed {reason : Text} (h : Used t (some reason) done kills l)
    (hr : Runs host c fuel i l r) :
    r.result = .ok (.ofStatus .error .empty) ∧
      Used t (some reason) (done ++ [i]) kills r.world := by
  cases hr with
  | unlaunched _ => exact ⟨rfl, h.launch i⟩
  | supervised reply _ _ =>
    rw [h.launch_failed i] at reply
    cases reply

/-- A launcher that can start children has one more launch and one more kill to account for. -/
theorem Used.run_ok (h : Used t none done kills l) (hr : Runs host c fuel i l r) :
    Used t none (done ++ [i]) (kills + 1) r.world := by
  cases hr with
  | unlaunched reply =>
    rw [(h.launch_ok i).1] at reply
    cases reply
  | @supervised d d' a ph k _ course _ =>
    have launched : Used t none (done ++ [i]) kills (host.launch i l).2 ∧
        (host.launch i l).2.session.alive = true := by
      refine ⟨h.launch i, ?_⟩
      rw [(h.launch_ok i).2]
      rfl
    have ending : Used t none (done ++ [i]) kills k.world ∧ k.world.session.alive = true := by
      refine course.world
        (I := fun l => Used t none (done ++ [i]) kills l ∧ l.session.alive = true) ?_ ?_ ?_ launched
      · exact fun l hl => ⟨hl.1.onSession _, (Replay.alive_handshake _).trans hl.2⟩
      · exact fun l hl => ⟨hl.1.onSession _, (Replay.alive_nextEvent _).trans hl.2⟩
      · exact fun l hl => ⟨hl.1.onSession _, hl.2⟩
    change Used t none (done ++ [i]) (kills + 1) (killed host d' a _ (k.move ph)).world
    rw [world_killed]
    exact ending.1.kill ending.2

/-- Every run comes to an end. -/
theorem Used.exists_run (h : Used t cause done kills l) (enough : t.events.length < fuel)
    (shown : clock + i.budget < clockEnd) :
    ∃ r, run host c clock fuel i l = .finished r ∧ Runs host c fuel i l r := by
  suffices hrun : ∃ r, run host c clock fuel i l = .finished r by
    obtain ⟨r, hr⟩ := hrun
    exact ⟨r, hr, (run_eq_finished_iff.1 hr).2⟩
  cases cause with
  | none =>
    refine Supervisor.exists_run (n := t.events.length) shown ?_ (fun _ => nofun) ?_ enough
    · rw [(h.launch_ok i).1]
      exact nofun
    · exact fun hn => h.not_passes i hn.2
  | some reason => exact ⟨_, run_eq_finished_iff.2 ⟨shown, .unlaunched (h.launch_failed i)⟩⟩

/-- The run was as the run of a new launcher is, at whatever time that one begins. -/
def AsNew (new : ReplayLauncher) (c : Classifier) (fuel : Nat) (i : Invocation)
    (r : RunReport ReplayLauncher) : Prop :=
  ∀ clock, clock + i.budget < clockEnd →
    ∃ r', run host c clock fuel i new = .finished r' ∧ r.Matches r'

theorem Used.asNew {new : ReplayLauncher} (h : Used t cause done kills l)
    (hnew : Used t cause [] 0 new) (hr : Runs host c fuel i l r) : AsNew new c fuel i r := by
  intro clock shown
  obtain ⟨r', hr', same⟩ := h.matches hnew hr
  exact ⟨r', run_eq_finished_iff.2 ⟨shown, hr'⟩, same⟩

/-! ### Any number of runs -/

theorem length_invocations_take {starts : List Start} {n : Nat} {s : Start}
    (h : starts[n]? = some s) : ((starts.take (n + 1)).map (·.invocation)).length = n + 1 := by
  obtain ⟨hn, -⟩ := List.getElem?_eq_some_iff.1 h
  simp only [List.length_map, List.length_take]
  omega

/-- Runs that use one launcher one after the other are independent of each other and all accounted
    for. Each comes to an end and is as the run of a new launcher; the launcher knows the command
    lines of all invocations so far, in order, and has killed as many sessions. One that cannot
    start anything knows the command lines too, but all of its runs are errors and it kills
    nothing. -/
theorem runEach_independent (c : Classifier) (fuel : Nat) (t : Transcript) (reason : Text)
    (starts : List Start) (shown : ∀ s ∈ starts, s.Shown) (enough : t.events.length < fuel) :
    (∃ rs : List (RunReport ReplayLauncher),
      runEach host c fuel starts (ofTranscript t) = rs.map .finished ∧
      rs.length = starts.length ∧
      ∀ n s r, starts[n]? = some s → rs[n]? = some r →
        AsNew (ofTranscript t) c fuel s.invocation r ∧
        r.world.launches = (starts.take (n + 1)).map (·.invocation.commandLine) ∧
        r.world.kills = n + 1) ∧
    ∃ rs : List (RunReport ReplayLauncher),
      runEach host c fuel starts (failing reason) = rs.map .finished ∧
      rs.length = starts.length ∧
      ∀ n s r, starts[n]? = some s → rs[n]? = some r →
        AsNew (failing reason) c fuel s.invocation r ∧
        r.result = .ok (.ofStatus .error .empty) ∧
        r.world.launches = (starts.take (n + 1)).map (·.invocation.commandLine) ∧
        r.world.kills = 0 := by
  constructor
  · have step (done : List Invocation) (l : ReplayLauncher) (s : Start)
        (kept : Used t none done done.length l) (shown : s.Shown) :
        ∃ r, run host c s.clock fuel s.invocation l = .finished r ∧
          AsNew (ofTranscript t) c fuel s.invocation r ∧
          Used t none (done ++ [s.invocation]) (done ++ [s.invocation]).length r.world := by
      obtain ⟨r, hrun, hr⟩ := kept.exists_run enough shown
      refine ⟨r, hrun, kept.asNew (used_ofTranscript t) hr, ?_⟩
      simpa using kept.run_ok hr
    obtain ⟨rs, hrs, hlen, hall⟩ := exists_runEach (fun done l => Used t none done done.length l)
      (AsNew (ofTranscript t) c fuel) step shown (used_ofTranscript t)
    refine ⟨rs, hrs, hlen, fun n s r hs hr => ?_⟩
    obtain ⟨told, kept⟩ := hall n s r hs hr
    rw [List.nil_append, length_invocations_take hs] at kept
    exact ⟨told, by simpa [Function.comp_def] using kept.launches, kept.kills⟩
  · have step (done : List Invocation) (l : ReplayLauncher) (s : Start)
        (kept : Used ⟨none, [], false⟩ (some reason) done 0 l) (shown : s.Shown) :
        ∃ r, run host c s.clock fuel s.invocation l = .finished r ∧
          (AsNew (failing reason) c fuel s.invocation r ∧
            r.result = .ok (.ofStatus .error .empty)) ∧
          Used ⟨none, [], false⟩ (some reason) (done ++ [s.invocation]) 0 r.world := by
      obtain ⟨r, hrun, hr⟩ := kept.exists_run (Nat.zero_lt_of_lt enough) shown
      obtain ⟨failed, kept'⟩ := kept.run_failed hr
      exact ⟨r, hrun, ⟨kept.asNew (used_failing reason) hr, failed⟩, kept'⟩
    obtain ⟨rs, hrs, hlen, hall⟩ := exists_runEach
      (fun done l => Used ⟨none, [], false⟩ (some reason) done 0 l)
      (fun i r => AsNew (failing reason) c fuel i r ∧ r.result = .ok (.ofStatus .error .empty))
      step shown (used_failing reason)
    refine ⟨rs, hrs, hlen, fun n s r hs hr => ?_⟩
    obtain ⟨⟨told, failed⟩, kept⟩ := hall n s r hs hr
    exact ⟨told, failed, by simpa [Function.comp_def] using kept.launches, kept.kills⟩

/-- Two runs of a child that is silent for ever, the second begun after the first timed out. -/
theorem runEach_independent_hanging :
    (∀ s ∈ [Start.mk 0 ⟨['x'], [], [], 5⟩, ⟨9, ⟨['y'], [], [], 5⟩⟩], s.Shown) ∧
    ([] : List Event).length < 1 ∧
    ∃ r s, runEach host .builtin 1 [⟨0, ⟨['x'], [], [], 5⟩⟩, ⟨9, ⟨['y'], [], [], 5⟩⟩]
        (ofTranscript ⟨none, [], true⟩) = [.finished r, .finished s] ∧
      AsNew (ofTranscript ⟨none, [], true⟩) .builtin 1 ⟨['y'], [], [], 5⟩ s ∧
      s.world.launches = [['x', ' '], ['y', ' ']] ∧ s.world.kills = 2 := by
  have shown : ∀ s ∈ [Start.mk 0 ⟨['x'], [], [], 5⟩, ⟨9, ⟨['y'], [], [], 5⟩⟩], s.Shown := by
    simp [Start.Shown, clockEnd]
  obtain ⟨⟨rs, hrs, hlen, hall⟩, -⟩ := runEach_independent .builtin 1 ⟨none, [], true⟩ [] _ shown
    Nat.one_pos
  obtain ⟨r, s, rfl⟩ := List.length_eq_two.1 hlen
  exact ⟨shown, Nat.one_pos, r, s, hrs, hall 1 _ s rfl rfl⟩

end ReplayLauncher

end Overseer
