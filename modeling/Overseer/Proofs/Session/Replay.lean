import Overseer.Proofs.Session.Timeline
import Overseer.Session.Transcript

/-! ## Sessions that replay a transcript

What a launcher of such sessions keeps: `Used` says what it has been asked to start and how many
sessions were killed, and a call to a session changes neither. The session itself comes to the end
of its transcript, as every line that it hands out is one less to come. -/

namespace Overseer

variable {α : Type}

/-! ### Sessions -/

namespace Replay

variable {r : Replay} {t : Transcript} {n : Nat}

theorem alive_handshake (r : Replay) : r.handshake.2.alive = r.alive := by
  unfold handshake
  split <;> rfl

theorem alive_nextEvent (r : Replay) : r.nextEvent.2.alive = r.alive := by
  unfold nextEvent
  split
  · rfl
  · split <;> rfl

theorem events_handshake (r : Replay) : r.handshake.2.rest.events = r.rest.events := by
  unfold handshake
  split <;> rfl

/-- The session is alive and hands out at most `n` lines more. -/
structure Within (n : Nat) (r : Replay) : Prop where
  alive : r.alive = true
  left : r.rest.events.length ≤ n ∨ ∃ code, r.rest.events.head? = some (.exited code)

theorem within_start (t : Transcript) : (start t).Within t.events.length :=
  ⟨rfl, .inl (Nat.le_refl _)⟩

theorem Within.handshake (h : r.Within n) : r.handshake.2.Within n := by
  obtain ⟨alive, left⟩ := h
  refine ⟨r.alive_handshake.trans alive, ?_⟩
  simpa only [events_handshake] using left

theorem Within.nextEvent (h : r.Within n) : r.nextEvent.2.Within (n - 1) := by
  obtain ⟨alive, left⟩ := h
  refine ⟨r.alive_nextEvent.trans alive, ?_⟩
  unfold Replay.nextEvent
  simp only [alive, Bool.not_true, Bool.false_eq_true, if_false]
  match hevents : r.rest.events with
  | [] => simp [hevents]
  | .exited code :: events => exact .inr ⟨code, rfl⟩
  | .line l :: events =>
    simp only [hevents, List.length_cons, List.head?_cons, Option.some.injEq, reduceCtorEq,
      exists_false, or_false] at left
    exact .inl (Nat.le_sub_one_of_lt left)

/-- A session that has no line to hand out hands out none. -/
theorem Within.not_passes {c : Classifier} (h : r.Within 0) : ¬ r.nextEvent.1.Passes c := by
  obtain ⟨alive, left⟩ := h
  unfold Replay.nextEvent
  simp only [alive, Bool.not_true, Bool.false_eq_true, if_false]
  match hevents : r.rest.events with
  | [] =>
    rintro ⟨d, l, hreply, -⟩
    dsimp only at hreply
    split at hreply <;> cases hreply
  | .exited code :: events =>
    rintro ⟨d, l, hreply, -⟩
    cases hreply
  | .line l :: events => simp [hevents] at left

end Replay

/-! ### Launchers -/

namespace ReplayLauncher

variable {l : ReplayLauncher} {t : Transcript} {cause : Option Text} {done : List Invocation}
  {kills n : Nat} {i : Invocation}

/-- A launcher with a given transcript and reason to fail that was asked to start the invocations
    `done`, in order, and whose sessions were killed `kills` times. -/
structure Used (t : Transcript) (cause : Option Text) (done : List Invocation) (kills : Nat)
    (l : ReplayLauncher) : Prop where
  transcript : l.transcript = t
  spawnError : l.spawnError = cause
  launches : l.launches = done.map (·.commandLine)
  kills : l.kills = kills

theorem used_ofTranscript (t : Transcript) : Used t none [] 0 (ofTranscript t) :=
  ⟨rfl, rfl, rfl, rfl⟩

theorem used_failing (reason : Text) :
    Used ⟨none, [], false⟩ (some reason) [] 0 (failing reason) := ⟨rfl, rfl, rfl, rfl⟩

/-- A call to the session changes nothing else. -/
theorem Used.onSession (h : Used t cause done kills l) (call : Replay → Reply α × Replay) :
    Used t cause done kills (onSession call l).2 :=
  ⟨h.transcript, h.spawnError, h.launches, h.kills⟩

theorem Used.launch (h : Used t cause done kills l) (i : Invocation) :
    Used t cause (done ++ [i]) kills (launch i l).2 := by
  have hlaunches : (i.commandLine :: l.launched).reverse = (done ++ [i]).map (·.commandLine) := by
    simpa [ReplayLauncher.launches] using h.launches
  unfold ReplayLauncher.launch
  dsimp only
  split <;> exact ⟨h.transcript, h.spawnError, hlaunches, h.kills⟩

/-- Killing a session that is alive counts. -/
theorem Used.kill (h : Used t cause done kills l) (alive : l.session.alive = true) :
    Used t cause done (kills + 1) (kill l).2 := by
  refine ⟨h.transcript, h.spawnError, h.launches, ?_⟩
  change (if l.session.alive then l.kills + 1 else l.kills) = kills + 1
  rw [if_pos alive, h.kills]

/-- A launcher that can start children starts each with the whole transcript. -/
theorem Used.launch_ok (h : Used t none done kills l) (i : Invocation) :
    (host.launch i l).1 = .now () ∧ (host.launch i l).2.session = .start t := by
  simp [host, ReplayLauncher.launch, h.spawnError, h.transcript]

/-- A launcher that cannot start children says why. -/
theorem Used.launch_failed {reason : Text} (h : Used t (some reason) done kills l)
    (i : Invocation) : (host.launch i l).1 = .after 0 (.error (.spawnFailed reason)) := by
  simp [host, ReplayLauncher.launch, h.spawnError]

/-- After `n` events a session that has just been opened hands out as many lines less. -/
theorem within_afterEvents (hl : (host.opened i l).session.Within n) (m : Nat) :
    (host.afterEvents (host.opened i l) m).session.Within (n - m) := by
  induction m with
  | zero => exact hl
  | succ m ih =>
    rw [Host.afterEvents_succ, Nat.sub_add_eq]
    exact ih.nextEvent

/-- A session that has handed out a whole transcript hands out no more lines. -/
theorem Used.not_passes {c : Classifier} (h : Used t none done kills l) (i : Invocation) :
    ¬ ((host.timeline i l).event t.events.length).Passes c := by
  have started : (host.launched i l).session.Within t.events.length := by
    unfold Host.launched
    rw [(h.launch_ok i).2]
    exact Replay.within_start t
  have opened : (host.opened i l).session.Within t.events.length := started.handshake
  have ended := within_afterEvents opened t.events.length
  rw [Nat.sub_self] at ended
  exact ended.not_passes

end ReplayLauncher

end Overseer
