import Mathlib.Data.List.Nodup
import Overseer.Proofs.Supervisor.Course

/-! ## The path of a run through its phases

The records of a run say which phases it entered. They are one path from the first phase along the
edges between phases to a terminal one: `Traced` says so of a run that is still going on, every step
of a run keeps it, and `run_follows_path` reads it off at the end. -/

namespace Overseer

/-! ### Paths -/

namespace Phase

/-- A change of phase: where it comes from and where it leads. -/
abbrev Edge := Phase × Phase

/-- `Path p es q` when the edges `es` lead from `p` to `q`, each from where the one before it led. -/
inductive Path (p : Phase) : List Edge → Phase → Prop
  | nil : Path p [] p
  | snoc {es : List Edge} {q r : Phase} (path : Path p es q) (leads : q.Leads r) :
      Path p (es ++ [(q, r)]) r

/-- How far a phase is on the way of a run. -/
def rank : Phase → Nat
  | .starting => 0
  | .compilingInput => 1
  | .streaming => 2
  | .completed | .unknown | .error | .timedOut => 3

variable {p q r : Phase} {es : List Edge}

theorem Leads.rank_lt (h : q.Leads r) : q.rank < r.rank := by
  revert h
  cases q <;> cases r <;> decide

theorem Leads.not_terminal (h : q.Leads r) : q.isTerminal = false := by
  cases hq : q.isTerminal with
  | false => rfl
  | true => exact absurd h (isTerminal_iff.1 hq r)

namespace Path

/-- No phase of a path is farther than its end. -/
theorem rank_le (h : Path p es q) : ∀ x ∈ p :: es.map Prod.snd, x.rank ≤ q.rank := by
  induction h with
  | nil =>
    intro x hx
    rw [List.mem_singleton.1 hx]
  | @snoc es q r _ leads ih =>
    intro x hx
    rw [List.map_append, ← List.cons_append] at hx
    rcases List.mem_append.1 hx with hx | hx
    · exact (ih x hx).trans leads.rank_lt.le
    · rw [List.mem_singleton.1 hx]

/-- A path visits no phase twice, because each edge leads farther. -/
theorem nodup (h : Path p es q) : (p :: es.map Prod.snd).Nodup := by
  induction h with
  | nil => exact List.nodup_singleton p
  | @snoc es q r path leads ih =>
    rw [List.map_append, ← List.cons_append]
    refine List.nodup_append.2 ⟨ih, List.nodup_singleton r, fun x hx y hy => ?_⟩
    rw [List.mem_singleton.1 hy]
    rintro rfl
    exact absurd (path.rank_le _ hx) (Nat.not_le.2 leads.rank_lt)

/-- A path enters a terminal phase only at its end. -/
theorem countP_terminal (h : Path p es q) (hp : p.isTerminal = false) :
    es.countP (fun e => e.2.isTerminal) = if q.isTerminal then 1 else 0 := by
  induction h with
  | nil =>
    rw [hp]
    rfl
  | @snoc es q r _ leads ih =>
    rw [List.countP_append, ih, leads.not_terminal]
    simp

end Path

end Phase

/-! ### Records -/

namespace Record

/-- The message of the records about changes of phase. -/
def transitionMessage : Text := "Supervisor state transition".toList

/-- The change of phase that a record is about. -/
def edge? : Record → Option Phase.Edge
  | .transition source target => some (source, target)
  | _ => none

/-- The record about a change of phase. -/
def ofEdge (e : Phase.Edge) : Record := .transition e.1 e.2

theorem message_entry_iff {r : Record} :
    r.entry.message = transitionMessage ↔ ∃ e, r.edge? = some e := by
  cases r with
  | transition source target => exact iff_of_true rfl ⟨_, rfl⟩
  | _ =>
    refine iff_of_false ?_ nofun
    delta transitionMessage
    simp only [entry, String.toList_inj, String.reduceEq, not_false_eq_true]

theorem eq_ofEdge {r : Record} {e : Phase.Edge} (h : r.edge? = some e) : r = ofEdge e := by
  cases r with
  | transition source target => cases h; rfl
  | _ => cases h

/-- The entries that meet `P` are those of the records that `read` reads. -/
theorem filter_entries {α : Type} {P : Log.Entry → Bool} {read : Record → Option α}
    {write : α → Log.Entry} (hread : ∀ r, P r.entry = (read r).isSome)
    (hwrite : ∀ r a, read r = some a → r.entry = write a) (rs : List Record) :
    (rs.map entry).filter P = (rs.filterMap read).map write := by
  induction rs with
  | nil => rfl
  | cons r rs ih =>
    cases h : read r with
    | none => simp [hread, h, ih]
    | some a => simp [hread, h, ih, ← hwrite r a h]

/-- The entries with that message are those about changes of phase. -/
theorem filter_message (rs : List Record) :
    (rs.map entry).filter (fun e => e.message = transitionMessage) =
      (rs.filterMap edge?).map fun e => (ofEdge e).entry := by
  refine filter_entries (fun r => ?_) (fun r e h => by rw [eq_ofEdge h]) rs
  rw [Bool.eq_iff_iff, decide_eq_true_iff, message_entry_iff, Option.isSome_iff_exists]

end Record

/-! ### Runs that go on -/

namespace Progress

variable {σ : Type} {p : Progress σ}

/-- The changes of phase up to now, in order. -/
def edges (p : Progress σ) : List Phase.Edge := p.records.reverse.filterMap Record.edge?

/-- The changes of phase up to now are a path from the first phase to the present one. -/
def Traced (p : Progress σ) : Prop := Phase.Path .starting p.edges p.phase

theorem traced_start (w : σ) : (start w).Traced := .nil

theorem edges_note {r : Record} (h : r.edge? = none) : (p.note r).edges = p.edges := by
  unfold edges note
  rw [List.reverse_cons, List.filterMap_append, List.filterMap_cons_none h, List.filterMap_nil,
    List.append_nil]

theorem edges_move (q : Phase) : (p.move q).edges = p.edges ++ [(p.phase, q)] := by
  unfold edges move
  rw [List.reverse_cons, List.filterMap_append]
  rfl

/-- A record that is not about a change of phase changes nothing. -/
theorem Traced.note {r : Record} (h : p.Traced) (hr : r.edge? = none) : (p.note r).Traced := by
  unfold Traced
  rw [edges_note hr]
  exact h

theorem Traced.move {q : Phase} (h : p.Traced) (leads : p.phase.Leads q) : (p.move q).Traced := by
  unfold Traced
  rw [edges_move]
  exact .snoc h leads

theorem Traced.answer (h : p.Traced) (k : Call) (d : Nat) (w : σ) : (p.answer k d w).Traced := h

theorem Traced.giveUp (h : p.Traced) (k : Call) (deadline : Nat) : (p.giveUp k deadline).Traced := h

theorem Traced.absorb (h : p.Traced) (c : Classifier) (l : OutputLine) : (p.absorb c l).Traced :=
  h.note rfl

theorem Traced.noteLeftovers (h : p.Traced) (lines : List OutputLine) :
    (p.noteLeftovers lines).Traced := by
  unfold Progress.noteLeftovers
  induction lines generalizing p with
  | nil => exact h
  | cons l lines ih => exact ih (h.note rfl)

end Progress

namespace Supervisor

open Progress

variable {σ : Type} {host : Host σ} {c : Classifier} {deadline fuel clock : Nat} {i : Invocation}
  {w : σ} {p q k : Progress σ} {ls : List OutputLine} {ph : Phase} {r : RunReport σ}

theorem Reads.traced (h : Reads host c deadline p ls q) (hp : p.Traced) : q.Traced := by
  induction h with
  | nil => exact hp
  | cons _ _ _ _ _ ih => exact ih ((hp.answer _ _ _).absorb _ _)

/-- The record about a signal is not about a change of phase. -/
theorem edge?_of_ending? {s : Signal} {line : Text} {record : Record}
    (h : s.ending? line = some (ph, record)) : record.edge? = none := by
  cases s <;> cases h <;> rfl

theorem Stops.traced (h : Stops host c deadline p ph k) (hp : p.Traced) : k.Traced := by
  cases h with
  | late _ => exact hp.note rfl
  | expired _ _ => exact (hp.giveUp _ _).note rfl
  | failed _ _ _ => exact (hp.answer _ _ _).note rfl
  | exited _ _ _ => exact (hp.answer _ _ _).note rfl
  | decided _ _ _ signal => exact ((hp.answer _ _ _).absorb _ _).note (edge?_of_ending? signal)

theorem traced_noteRest (hp : p.Traced) : (noteRest host deadline p).Traced := by
  rcases noteRest_cases host deadline p with h | ⟨d, e, h⟩ | ⟨d, lines, h⟩
  · rw [h]
    exact (hp.giveUp _ _).note rfl
  · rw [h]
    exact (hp.answer _ _ _).note rfl
  · rw [h]
    exact (hp.answer _ _ _).noteLeftovers lines

theorem Supervises.traced (h : Supervises host c deadline fuel p ph k) (hp : p.Traced)
    (start : p.phase = .starting) : k.Traced := by
  have hcompiling : (compiling p).Traced := hp.move (by rw [start]; decide)
  cases h with
  | unopened _ => exact (hcompiling.giveUp _ _).note rfl
  | failed _ _ => exact (hcompiling.answer _ _ _).note rfl
  | rejected _ _ _ => exact traced_noteRest ((hcompiling.answer _ _ _).note rfl)
  | @streamed d _ _ _ _ _ _ _ _ _ reads stops =>
    have hopening : (opening (host.pid (host.handshake p.world).2)
        ((compiling p).answer .handshake d (host.handshake p.world).2)).Traced := by
      refine Traced.move (Traced.note (hcompiling.answer _ _ _) rfl) ?_
      exact (by decide : Phase.compilingInput.Leads .streaming)
    exact stops.traced (reads.traced hopening)

theorem traced_begun (i : Invocation) (w : σ) : (begun i w).Traced := (traced_start w).note rfl

theorem traced_killed (hp : p.Traced) (d : Nat) (a : Except ProcessError Unit) (w : σ) :
    (killed host d a w p).Traced := by
  cases a with
  | ok u => exact hp.answer _ _ _
  | error e => exact (hp.answer _ _ _).note rfl

/-- Every phase after streaming is terminal. -/
theorem terminal_of_streaming_leads (h : Phase.streaming.Leads ph) : ph.isTerminal = true := by
  revert h
  cases ph <;> decide

theorem Stops.terminal (h : Stops host c deadline p ph k) : ph.isTerminal = true := by
  cases h with
  | late _ => rfl
  | expired _ _ => rfl
  | failed _ _ _ => rfl
  | exited _ _ _ => rfl
  | decided _ _ _ signal => exact terminal_of_streaming_leads (Signal.leads_of_ending? signal)

theorem Supervises.terminal (h : Supervises host c deadline fuel p ph k) : ph.isTerminal = true := by
  cases h with
  | unopened _ => rfl
  | failed _ _ => rfl
  | rejected _ _ _ => rfl
  | streamed _ _ _ _ _ stops => exact stops.terminal

/-! ### Runs that are over -/

/-- The entries of a run about changes of phase are the edges of a path that ends in `ph`, visits no
    phase twice and enters one terminal phase. -/
structure Follows (records : List Record) (es : List Phase.Edge) (ph : Phase) : Prop where
  entries : (records.map Record.entry).filter (fun e => e.message = Record.transitionMessage) =
    es.map fun e => (Record.ofEdge e).entry
  path : Phase.Path .starting es ph
  nodup : (.starting :: es.map Prod.snd).Nodup
  terminal : ph.isTerminal = true
  once : es.countP (fun e => e.2.isTerminal) = 1

theorem follows_of_traced (hp : p.Traced) (hph : p.phase = ph) (terminal : ph.isTerminal = true) :
    Follows p.records.reverse p.edges ph := by
  subst hph
  refine ⟨Record.filter_message _, hp, hp.nodup, terminal, ?_⟩
  rw [hp.countP_terminal rfl, if_pos terminal]

/-- The result of a run in its last phase has the status that the phase stands for. -/
theorem status?_eq_resultIn (terminal : ph.isTerminal = true) :
    ph.status? = some (resultIn ph p).status := by
  obtain ⟨s, hs⟩ := Option.isSome_iff_exists.1 terminal
  unfold resultIn
  rw [RunResult.status_ofStatus, hs]
  rfl

theorem findings_resultIn_of_ne (h : (resultIn ph p).status ≠ .ok) :
    (resultIn ph p).findings = .empty := by
  unfold resultIn at h ⊢
  rw [RunResult.status_ofStatus] at h
  exact RunResult.findings_ofStatus_of_ne p.findings h

theorem phase_killed (d : Nat) (a : Except ProcessError Unit) (w : σ) :
    (killed host d a w p).phase = p.phase := by
  cases a <;> rfl

theorem Runs.follows (h : Runs host c fuel i w r) :
    ∃ v es ph, r.result = .ok v ∧ Follows r.records es ph ∧ ph.status? = some v.status ∧
      (v.status ≠ .ok → v.findings = .empty) := by
  cases h with
  | @unlaunched d e reply =>
    have hfailed : ((launched host i w d).note (.launchFailed e)).Traced :=
      ((traced_begun i w).answer _ _ _).note rfl
    have hended := hfailed.move (by decide : Phase.starting.Leads .error)
    exact ⟨_, _, .error, rfl, follows_of_traced hended rfl rfl, rfl, fun _ => rfl⟩
  | @supervised d d' a ph k reply course kill =>
    have hlaunched : (launched host i w d).Traced := (traced_begun i w).answer _ _ _
    have hended : (k.move ph).Traced := (course.traced hlaunched rfl).move course.leads
    have hkilled : (killed host d' a (host.kill k.world).2 (k.move ph)).Traced :=
      traced_killed hended d' a _
    have hfinished : (finished (resultIn ph k)
        (killed host d' a (host.kill k.world).2 (k.move ph))).Traced := hkilled.note rfl
    exact ⟨_, _, ph, rfl, follows_of_traced hfinished (phase_killed d' a _) course.terminal,
      status?_eq_resultIn course.terminal, findings_resultIn_of_ne⟩

/-- The result of a run is Ok; its entries about changes of phase are one path from the first phase
    to a terminal one, which visits no phase twice and enters no other terminal phase; the status is
    the one that the last phase stands for; and only a run that is ok has findings. -/
theorem run_follows_path (h : run host c clock fuel i w = .finished r) :
    ∃ v es ph, r.result = .ok v ∧
      (r.records.map Record.entry).filter (fun e => e.message = Record.transitionMessage) =
        es.map (fun e => (Record.ofEdge e).entry) ∧
      Phase.Path .starting es ph ∧ (.starting :: es.map Prod.snd).Nodup ∧
      ph.isTerminal = true ∧ es.countP (fun e => e.2.isTerminal) = 1 ∧
      ph.status? = some v.status ∧ (v.status ≠ .ok → v.findings = .empty) := by
  obtain ⟨v, es, ph, hv, follows, hstatus, hempty⟩ := (run_eq_finished_iff.1 h).2.follows
  exact ⟨v, es, ph, hv, follows.entries, follows.path, follows.nodup, follows.terminal,
    follows.once, hstatus, hempty⟩

/-- A child that exits while it is still expected to print. -/
theorem run_follows_path_earlyExit :
    let s : Script := ⟨.after 3 (.ok ()),
      .after 2 (.ok (some "Trying to compile a.c ... OK".toList)),
      [.after 1 (.ok (.exited (some 1)))], .never, .after 5 (.error (.killFailed []))⟩
    let i : Invocation := ⟨"slllvm".toList, [], [], 10⟩
    ∃ r, run (Script.host 7) .builtin 0 2 i s = .finished r ∧
      ∃ v es ph, r.result = .ok v ∧
        (r.records.map Record.entry).filter (fun e => e.message = Record.transitionMessage) =
          es.map (fun e => (Record.ofEdge e).entry) ∧
        Phase.Path .starting es ph ∧ (.starting :: es.map Prod.snd).Nodup ∧
        ph.isTerminal = true ∧ es.countP (fun e => e.2.isTerminal) = 1 ∧
        ph.status? = some v.status ∧ (v.status ≠ .ok → v.findings = .empty) := by
  intro s i
  obtain ⟨r, h⟩ : ∃ r, run (Script.host 7) .builtin 0 2 i s = .finished r := ⟨_, rfl⟩
  exact ⟨r, h, run_follows_path h⟩

end Supervisor

end Overseer
