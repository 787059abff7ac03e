import Overseer.Proofs.Session.Replay

/-! ## The exit of a replayed session

A session keeps its exit as the last of the events that are left of its transcript, and reports it
whenever it is asked. Draining the session uses up the exit too. What it reports from then on is
what comes behind any transcript: an exit with code 0, or nothing if the child hangs. -/

namespace Overseer.Replay

variable {r : Replay} {events : List Event} {code : Option Int} {hang : Bool}

/-! ### Requests -/

/-- What a session can be asked for without being killed. -/
inductive Request where
  | handshake
  | nextEvent
  | drain
  | pid
deriving DecidableEq

/-- The session after a request. One that is not answered is given up. -/
def ask (r : Replay) : Request → Replay
  | .handshake => r.handshake.2
  | .nextEvent => r.nextEvent.2
  | .drain => r.drain.2
  | .pid => r

/-- The session after some requests, one after the other. -/
def askAll (r : Replay) (requests : List Request) : Replay := requests.foldl ask r

theorem alive_ask (r : Replay) (q : Request) : (r.ask q).alive = r.alive := by
  cases q with
  | handshake => exact r.alive_handshake
  | nextEvent => exact r.alive_nextEvent
  | drain | pid => rfl

theorem hang_ask (r : Replay) (q : Request) : (r.ask q).rest.hang = r.rest.hang := by
  cases q with
  | handshake =>
    change r.handshake.2.rest.hang = r.rest.hang
    unfold handshake
    split <;> rfl
  | nextEvent =>
    change r.nextEvent.2.rest.hang = r.rest.hang
    unfold nextEvent
    split
    · rfl
    · split <;> rfl
  | drain | pid => rfl

/-! ### What is left of a transcript -/

/-- A session that is alive, and the events that are left of its transcript. -/
structure Left (events : List Event) (hang : Bool) (r : Replay) : Prop where
  alive : r.alive = true
  hang_eq : r.rest.hang = hang
  events_eq : r.rest.events = events

theorem Left.ask (h : r.Left events hang) (q : Request) :
    (r.ask q).Left (r.ask q).rest.events hang :=
  ⟨(r.alive_ask q).trans h.alive, (r.hang_ask q).trans h.hang_eq, rfl⟩

theorem exists_left_askAll (t : Transcript) (requests : List Request) :
    ∃ events, ((start t).askAll requests).Left events t.hang := by
  have hstart : (start t).Left t.events t.hang := ⟨rfl, rfl, rfl⟩
  generalize start t = r at hstart
  generalize t.events = events at hstart
  induction requests generalizing r events with
  | nil => exact ⟨events, hstart⟩
  | cons q requests ih => exact ih _ _ (hstart.ask q)

/-- What is reported when these events are left. -/
def report (events : List Event) (hang : Bool) : Reply Event :=
  match events with
  | e :: _ => .now e
  | [] => if hang then .never else .now (.exited (some 0))

/-- The events that are left after asking for one. -/
def behind : List Event → List Event
  | .exited code :: _ => [.exited code]
  | .line _ :: events => events
  | [] => []

theorem Left.nextEvent (h : r.Left events hang) :
    r.nextEvent.1 = report events hang ∧ r.nextEvent.2.Left (behind events) hang := by
  obtain ⟨alive, rfl, rfl⟩ := h
  unfold Replay.nextEvent
  simp only [alive, Bool.not_true, Bool.false_eq_true, if_false]
  match hevents : r.rest.events with
  | [] => exact ⟨rfl, alive, rfl, hevents⟩
  | .exited code :: _ => exact ⟨rfl, rfl, rfl, rfl⟩
  | .line l :: _ => exact ⟨rfl, rfl, rfl, rfl⟩

/-! ### The end of a transcript -/

/-- Nothing is left but an exit, or nothing at all. -/
def Settled (events : List Event) : Prop := events = [] ∨ ∃ code, events = [.exited code]

theorem Settled.behind_eq (h : Settled events) : behind events = events := by
  rcases h with rfl | ⟨code, rfl⟩ <;> rfl

/-- Where an exit was reported the transcript is at its end. -/
theorem settled_of_report (h : report events hang = .now (.exited code)) :
    Settled (behind events) ∧ report (behind events) hang = .now (.exited code) := by
  match events with
  | [] => exact ⟨.inl rfl, h⟩
  | .exited c :: _ => exact ⟨.inr ⟨c, rfl⟩, h⟩
  | .line l :: _ => cases h

/-- Of a transcript at its end only draining takes anything away. -/
theorem Left.ask_settled (h : r.Left events hang) (settled : Settled events) (q : Request) :
    (r.ask q).Left (if q = .drain then [] else events) hang := by
  have hask := h.ask q
  cases q with
  | handshake =>
    rw [Replay.ask, events_handshake, h.events_eq] at hask
    exact hask
  | nextEvent =>
    have hnext := h.nextEvent.2
    rw [settled.behind_eq] at hnext
    exact hnext
  | drain => exact hask
  | pid => exact h

theorem Left.askAll_settled (h : r.Left events hang) (settled : Settled events)
    (requests : List Request) :
    (r.askAll requests).Left (if .drain ∈ requests then [] else events) hang := by
  induction requests generalizing r events with
  | nil => exact h
  | cons q requests ih =>
    have hask := h.ask_settled settled q
    by_cases hq : q = .drain
    · rw [if_pos hq] at hask
      have hrest := ih hask (.inl rfl)
      rw [ite_self] at hrest
      rw [if_pos (by simp [hq])]
      exact hrest
    · rw [if_neg hq] at hask
      have hmem : Request.drain ∈ q :: requests ↔ Request.drain ∈ requests := by
        simp [Ne.symm hq]
      simp only [hmem]
      exact ih hask settled

/-! ### Exits reported again -/

/-- A session that has reported its exit reports the same exit whenever it is asked again, until it
    is drained. Then it reports an exit with code 0, or never anything if the child hangs. So the
    exit is kept exactly if the session was not drained or this is its exit. -/
theorem exit_kept_iff (t : Transcript) (earlier later : List Request)
    (exited : ((start t).askAll earlier).nextEvent.1 = .now (.exited code)) :
    let again := (((start t).askAll earlier).nextEvent.2.askAll later).nextEvent.1
    (.drain ∉ later → again = .now (.exited code)) ∧
      (.drain ∈ later → again = if t.hang then .never else .now (.exited (some 0))) ∧
      (again = .now (.exited code) ↔ .drain ∉ later ∨ t.hang = false ∧ code = some 0) := by
  intro again
  obtain ⟨events, hleft⟩ := exists_left_askAll t earlier
  obtain ⟨hreport, hbehind⟩ := hleft.nextEvent
  obtain ⟨settled, hexit⟩ := settled_of_report (hreport.symm.trans exited)
  have hagain : again = report (if .drain ∈ later then [] else behind events) t.hang :=
    (hbehind.askAll_settled settled later).nextEvent.1
  by_cases drained : Request.drain ∈ later
  · rw [if_pos drained] at hagain
    refine ⟨fun undrained => absurd drained undrained, fun _ => hagain, ?_⟩
    rw [hagain, report]
    cases t.hang <;> simp [drained, Reply.now, eq_comm]
  · rw [if_neg drained] at hagain
    have hkept := hagain.trans hexit
    exact ⟨fun _ => hkept, fun h => absurd h drained, iff_of_true hkept (.inl drained)⟩

/-- A child that exits with code 3. -/
def exitsWithThree : Transcript := ⟨none, [.exited (some 3)], false⟩

theorem exit_kept_iff_undrained :
    let r := (start exitsWithThree).askAll [.handshake]
    r.nextEvent.1 = .now (.exited (some 3)) ∧ Request.drain ∉ [Request.pid, .nextEvent] ∧
      (r.nextEvent.2.askAll [.pid, .nextEvent]).nextEvent.1 = .now (.exited (some 3)) := by
  have exited : ((start exitsWithThree).askAll [.handshake]).nextEvent.1 =
      .now (.exited (some 3)) := rfl
  have undrained : Request.drain ∉ [Request.pid, .nextEvent] := by decide
  exact ⟨exited, undrained, (exit_kept_iff exitsWithThree [.handshake] _ exited).1 undrained⟩

/-- After draining, another exit is reported. -/
theorem not_exit_kept :
    ¬ ∀ (t : Transcript) (earlier later : List Request) (code : Option Int),
      ((start t).askAll earlier).nextEvent.1 = .now (.exited code) →
      (((start t).askAll earlier).nextEvent.2.askAll later).nextEvent.1 = .now (.exited code) := by
  intro h
  cases h exitsWithThree [] [.drain] (some 3) rfl

end Overseer.Replay
