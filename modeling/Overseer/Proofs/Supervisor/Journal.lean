import Overseer.Proofs.Supervisor.Budget
import Overseer.Proofs.Supervisor.PhasePath
import Overseer.Proofs.Supervisor.Soundness

/-! ## What a run notes

The records of a run tell its session faithfully. `Reports` says which lines a run has noted so far,
those that it read and those that were left when the handshake was rejected; every step keeps it.
What a timeline brings says which lines these are, and after them come only the last phase, a failed
kill, and the end of the run. -/

namespace Overseer

/-! ### Records -/

namespace Record

open Log (Level Entry)

/-- The message of the records about lines of the child. -/
abbrev outputMessage : Text := "Analyser output".toList

/-- The message of the record about the end of a run. -/
abbrev finishedMessage : Text := "Analyser run finished".toList

/-- The entry about a line of the child. -/
def outputEntry (level : Level) (l : OutputLine) : Entry :=
  ⟨level, outputMessage, [("stream".toList, .text l.stream.label), ("line".toList, .text l.text)]⟩

/-- The entry about the end of a run. -/
def finishedEntry (v : RunResult) (elapsed : Nat) : Entry :=
  ⟨.info, finishedMessage, [("status".toList, .text v.status.token),
    ("findings".toList, .number v.findings.size), ("elapsed_ms".toList, .number elapsed)]⟩

/-- The entry is about entering a phase. -/
def Enters (ph : Phase) (e : Entry) : Prop :=
  e.message = transitionMessage ∧ ("to".toList, .text ph.label) ∈ e.fields

/-- The line that a record says was read. -/
def output? : Record → Option OutputLine
  | .output l => some l
  | _ => none

/-- The line that a record says was left. -/
def leftover? : Record → Option OutputLine
  | .leftover l => some l
  | _ => none

/-- Whether the record is about entering the phase of errors or the end of the run. -/
def closes : Record → Bool
  | .transition _ target => target = .error
  | .finished .. => true
  | _ => false

/-- The record is about no line and closes nothing. -/
structure Quiet (r : Record) : Prop where
  output : r.output? = none := by rfl
  leftover : r.leftover? = none := by rfl
  goesOn : r.closes = false := by rfl

variable {r : Record}

theorem isOutput_iff :
    r.entry.level = .trace ∧ r.entry.message = outputMessage ↔ ∃ l, r.output? = some l := by
  cases r with
  | output l => exact iff_of_true ⟨rfl, rfl⟩ ⟨l, rfl⟩
  | _ =>
    refine iff_of_false ?_ ?_
    · simp only [entry, String.toList_inj, String.reduceEq, reduceCtorEq, and_false,
        false_and, not_false_eq_true]
    · rintro ⟨_, ⟨⟩⟩

theorem isLeftover_iff :
    r.entry.level = .warn ∧ r.entry.message = outputMessage ↔ ∃ l, r.leftover? = some l := by
  cases r with
  | leftover l => exact iff_of_true ⟨rfl, rfl⟩ ⟨l, rfl⟩
  | _ =>
    refine iff_of_false ?_ ?_
    · simp only [entry, String.toList_inj, String.reduceEq, reduceCtorEq, and_false,
        false_and, not_false_eq_true]
    · rintro ⟨_, ⟨⟩⟩

theorem filter_outputs (rs : List Record) :
    (rs.map entry).filter (fun e => e.level = .trace ∧ e.message = outputMessage) =
      (rs.filterMap output?).map (outputEntry .trace) := by
  refine filter_entries (fun r => ?_) (fun r l h => ?_) rs
  · rw [Bool.eq_iff_iff, decide_eq_true_iff, isOutput_iff, Option.isSome_iff_exists]
  · cases r with
    | output => cases h; rfl
    | _ => cases h

theorem filter_leftovers (rs : List Record) :
    (rs.map entry).filter (fun e => e.level = .warn ∧ e.message = outputMessage) =
      (rs.filterMap leftover?).map (outputEntry .warn) := by
  refine filter_entries (fun r => ?_) (fun r l h => ?_) rs
  · rw [Bool.eq_iff_iff, decide_eq_true_iff, isLeftover_iff, Option.isSome_iff_exists]
  · cases r with
    | leftover => cases h; rfl
    | _ => cases h

theorem message_ne_finished (h : r.closes = false ∨ ∃ e, r.edge? = some e) :
    r.entry.message ≠ finishedMessage := by
  cases r with
  | finished => simp [closes, edge?] at h
  | _ =>
    simp only [entry, ne_eq, String.toList_inj, String.reduceEq,
      not_false_eq_true]

theorem not_enters_error (h : r.closes = false) : ¬ Enters .error r.entry := by
  rintro ⟨hmessage, hto⟩
  obtain ⟨⟨source, target⟩, he⟩ := message_entry_iff.1 hmessage
  cases eq_ofEdge he
  simp only [ofEdge, entry, List.mem_cons, Prod.mk.injEq, String.toList_inj, String.reduceEq,
    false_and, true_and, Log.FieldValue.text.injEq, Phase.label_inj, List.not_mem_nil, or_false,
    false_or] at hto
  simp [ofEdge, closes, hto] at h

theorem not_enters_finished {ph : Phase} {status : RunStatus} {findings elapsed : Nat} :
    ¬ Enters ph (entry (.finished status findings elapsed)) := by
  rintro ⟨hmessage, -⟩
  obtain ⟨e, he⟩ := message_entry_iff.1 hmessage
  cases he

end Record

/-! ### What a session brings -/

/-- The lines that a run with a given budget reads, in order. -/
def Timeline.Prints (t : Timeline) (c : Classifier) (budget : Nat) (ls : List OutputLine) : Prop :=
  ∀ j l, ls[j]? = some l ↔
    t.OpensInTime budget ∧ t.Compiles ∧ t.Consumed c budget j ∧ t.Brings j l

/-- The handshake is read in time and rejected, and the lines that are left then come in time. -/
def Host.Leaves {σ : Type} (host : Host σ) (i : Invocation) (w : σ) (ls : List OutputLine) : Prop :=
  (host.timeline i w).OpensInTime i.budget ∧ (host.timeline i w).handshake.Succeeds ∧
    ¬ (host.timeline i w).Compiles ∧
    ∃ d, (host.drain (host.opened i w)).1 = .after d (.ok ls) ∧
      (host.drain (host.opened i w)).1.InTime i.budget (host.timeline i w).opening

/-! ### Runs that go on -/

namespace Progress

variable {σ : Type} {p : Progress σ} {read left : List OutputLine}

/-- The run has noted the lines that it read and those that were left, and is not about to end. -/
structure Reports (p : Progress σ) (read left : List OutputLine) : Prop where
  read : p.records.reverse.filterMap Record.output? = read
  left : p.records.reverse.filterMap Record.leftover? = left
  goesOn : ∀ x ∈ p.records, x.closes = false

namespace Reports

theorem start (w : σ) : (Progress.start w).Reports [] [] := ⟨rfl, rfl, nofun⟩

theorem answer (h : p.Reports read left) (k : Call) (d : Nat) (w : σ) :
    (p.answer k d w).Reports read left := ⟨h.read, h.left, h.goesOn⟩

theorem giveUp (h : p.Reports read left) (k : Call) (deadline : Nat) :
    (p.giveUp k deadline).Reports read left := ⟨h.read, h.left, h.goesOn⟩

theorem note {r : Record} (h : p.Reports read left) (hr : r.Quiet) :
    (p.note r).Reports read left where
  read := by simp [Progress.note, hr.output, h.read]
  left := by simp [Progress.note, hr.leftover, h.left]
  goesOn := List.forall_mem_cons.2 ⟨hr.goesOn, h.goesOn⟩

theorem move {q : Phase} (h : p.Reports read left) (hq : q ≠ .error) :
    (p.move q).Reports read left := by
  have hquiet : (Record.transition p.phase q).Quiet := ⟨rfl, rfl, by simpa [Record.closes] using hq⟩
  have hnote := h.note hquiet
  exact ⟨hnote.read, hnote.left, hnote.goesOn⟩

theorem absorb (h : p.Reports read left) (c : Classifier) (l : OutputLine) :
    (p.absorb c l).Reports (read ++ [l]) left where
  read := by simp [Progress.absorb, addFindings, Progress.note, Record.output?, h.read]
  left := by simp [Progress.absorb, addFindings, Progress.note, Record.leftover?, h.left]
  goesOn := List.forall_mem_cons.2 ⟨rfl, h.goesOn⟩

theorem noteLeftovers (h : p.Reports read left) (lines : List OutputLine) :
    (p.noteLeftovers lines).Reports read (left ++ lines) where
  read := by simp [noteLeftovers_eq, List.filterMap_map, Record.output?, h.read]
  left := by
    simp only [noteLeftovers_eq, List.reverse_append, List.reverse_reverse, List.filterMap_append,
      List.filterMap_map, h.left]
    exact congrArg (left ++ ·) List.filterMap_some
  goesOn := by
    rw [noteLeftovers_eq]
    refine List.forall_mem_append.2 ⟨fun x hx => ?_, h.goesOn⟩
    obtain ⟨l, -, rfl⟩ := List.mem_map.1 (List.mem_reverse.1 hx)
    rfl

end Reports

end Progress

/-! ### From launch to kill -/

namespace Supervisor

open Progress

variable {σ : Type} {host : Host σ} {c : Classifier} {deadline fuel clock n : Nat} {i : Invocation}
  {w : σ} {p q k : Progress σ} {ls read left : List OutputLine} {ph : Phase} {r : RunReport σ}

theorem Reads.reports (h : Reads host c deadline p ls q) (hp : p.Reports read left) :
    q.Reports (read ++ ls) left := by
  induction h generalizing read with
  | nil =>
    rw [List.append_nil]
    exact hp
  | @cons p q d l ls _ _ _ _ _ ih =>
    rw [List.append_cons]
    exact ih ((hp.answer _ _ _).absorb c l)

/-- The lines that a run reads are those that its session brings. -/
theorem ReadTo.brings_iff (h : ReadTo host c deadline i w n p) (hr : Reads host c deadline p ls q)
    {j : Nat} (hj : j < ls.length) {l : OutputLine} :
    ls[j]? = some l ↔ (host.timeline i w).Brings (n + j) l := by
  induction hr generalizing n j with
  | nil => cases hj
  | @cons p q d l₀ ls early reply inTime signal _ ih =>
    have hbrings : (host.timeline i w).Brings n l₀ := ⟨d, h.event ▸ reply⟩
    cases j with
    | zero =>
      simp only [List.getElem?_cons_zero, Option.some.injEq]
      refine ⟨?_, hbrings.unique⟩
      rintro rfl
      exact hbrings
    | succ j =>
      rw [List.getElem?_cons_succ, ih (h.step early reply inTime signal)
        (Nat.lt_of_succ_lt_succ hj), Nat.add_right_comm, Nat.add_assoc]

/-- The record about a signal is quiet. -/
theorem quiet_of_ending? {s : Signal} {line : Text} {record : Record}
    (h : s.ending? line = some (ph, record)) : record.Quiet := by
  cases s <;> cases h <;> exact {}

/-- What ends the reading reads one more line exactly if the next event is one and is consumed. -/
theorem ReadTo.stops_reports (h : ReadTo host c deadline i w n p)
    (hstop : Stops host c deadline p ph k) (hp : p.Reports read left) :
    ∃ last : Option OutputLine, k.Reports (read ++ last.toList) left ∧
      ∀ l, last = some l ↔
        (host.timeline i w).Consumed c deadline n ∧ (host.timeline i w).Brings n l := by
  have hsame : k.Reports read left → k.Reports (read ++ (none : Option OutputLine).toList) left := by
    intro hk
    simpa using hk
  cases hstop with
  | late late =>
    refine ⟨none, hsame (hp.note {}), fun l => iff_of_false nofun fun hl => ?_⟩
    exact absurd (h.consumed_iff.1 hl.1).1 (Nat.not_lt.2 late)
  | expired early overdue =>
    refine ⟨none, hsame ((hp.giveUp _ _).note {}), fun l => iff_of_false nofun fun hl => ?_⟩
    exact overdue (h.consumed_iff.1 hl.1).2
  | failed early reply inTime =>
    refine ⟨none, hsame ((hp.answer _ _ _).note {}), fun l => iff_of_false nofun fun hl => ?_⟩
    obtain ⟨-, d, hl⟩ := hl
    cases (h.event ▸ reply).symm.trans hl
  | exited early reply inTime =>
    refine ⟨none, hsame ((hp.answer _ _ _).note {}), fun l => iff_of_false nofun fun hl => ?_⟩
    obtain ⟨-, d, hl⟩ := hl
    cases (h.event ▸ reply).symm.trans hl
  | @decided d l q r early reply inTime signal =>
    have hbrings : (host.timeline i w).Brings n l := ⟨d, h.event ▸ reply⟩
    refine ⟨some l, ((hp.answer _ _ _).absorb c l).note (quiet_of_ending? signal), fun l' => ?_⟩
    constructor
    · intro hl
      cases hl
      exact ⟨h.consumed_iff.2 ⟨early, inTime⟩, hbrings⟩
    · rintro ⟨-, hl⟩
      rw [hbrings.unique hl]

/-- A run that was let to read its events has read what its session prints. -/
theorem ReadTo.prints (h : ReadTo host c deadline i w 0 p)
    (opened : (host.timeline i w).OpensInTime deadline) (good : (host.timeline i w).Compiles)
    (hr : Reads host c deadline p ls q) (hstop : Stops host c deadline q ph k)
    (hp : p.Reports [] left) :
    ∃ read, k.Reports read left ∧ (host.timeline i w).Prints c deadline read := by
  have hq := h.reads hr
  rw [Nat.zero_add] at hq
  obtain ⟨last, hk, hlast⟩ := hq.stops_reports hstop (hr.reports hp)
  refine ⟨_, hk, fun j l => ?_⟩
  simp only [opened, good, true_and, List.nil_append]
  rcases Nat.lt_trichotomy j ls.length with hlt | rfl | hgt
  · rw [List.getElem?_append_left hlt, h.brings_iff hr hlt, Nat.zero_add]
    exact (and_iff_right (hq.consumed j hlt)).symm
  · rw [List.getElem?_append_right le_rfl, Nat.sub_self, ← hlast]
    cases last <;> simp
  · rw [List.getElem?_eq_none (by cases last <;> simp <;> omega)]
    refine iff_of_false nofun fun hl => ?_
    exact hq.not_passed hstop (hl.1.of_lt hgt)

/-- Draining what is left notes the lines that come in time. -/
theorem reports_noteRest (host : Host σ) (deadline : Nat) (hp : p.Reports read []) :
    ∃ left, (noteRest host deadline p).Reports read left ∧
      ((∃ d, (host.drain p.world).1 = .after d (.ok left) ∧
          (host.drain p.world).1.InTime deadline p.clock) ∨
        left = [] ∧ ¬ ∃ d lines, (host.drain p.world).1 = .after d (.ok lines) ∧
          (host.drain p.world).1.InTime deadline p.clock) := by
  unfold noteRest
  rcases (host.drain p.world).1.overdue_or_answers deadline p.clock with
    overdue | ⟨d, a, reply, inTime⟩
  · rw [callWithin_overdue overdue]
    refine ⟨[], (hp.giveUp _ _).note {}, .inr ⟨rfl, ?_⟩⟩
    rintro ⟨_, _, _, inTime⟩
    exact overdue inTime
  · rw [callWithin_answered reply inTime]
    match a with
    | .error e =>
      refine ⟨[], (hp.answer _ _ _).note {}, .inr ⟨rfl, ?_⟩⟩
      rintro ⟨_, _, hlines, _⟩
      cases reply.symm.trans hlines
    | .ok lines => exact ⟨lines, (hp.answer _ _ _).noteLeftovers lines, .inl ⟨d, reply, inTime⟩⟩

theorem reports_compiling (d : Nat) : (compiling (launched host i w d)).Reports [] [] := by
  refine Reports.move (Reports.answer ?_ _ _ _) nofun
  exact (Reports.start w).note {}

/-- When the handshake was read, as a time of the timeline. -/
theorem clock_opened {d e : Nat} {line : Option Text}
    (launch : (host.launch i w).1 = .after d (.ok ()))
    (reply : (host.handshake (host.launched i w)).1 = .after e (.ok line)) :
    ((0 + d + e : Nat) : ℕ∞) = (host.timeline i w).opening := by
  have hopening : ReadTo host ⟨[]⟩ 0 i w 0 (opening none _) := readTo_opening none launch reply
  exact hopening.clock

/-- Between launch and kill a run notes what its session prints, and what is left when the handshake
    was rejected. -/
theorem Supervises.reports {d : Nat} (launch : (host.launch i w).1 = .after d (.ok ()))
    (h : Supervises host c i.budget fuel (launched host i w d) ph k) :
    ∃ read left, k.Reports read left ∧ (host.timeline i w).Prints c i.budget read ∧
      ((host.Leaves i w left ∧ k.phase = .compilingInput ∧ ph = .error) ∨
        left = [] ∧ ∀ ls, ¬ host.Leaves i w ls) := by
  have hcompiling : (compiling (launched host i w d)).Reports [] [] := reports_compiling d
  cases h with
  | unopened overdue =>
    rw [inTime_handshake_iff launch] at overdue
    refine ⟨[], [], (hcompiling.giveUp _ _).note {}, ?_, .inr ⟨rfl, fun ls hls => overdue hls.1⟩⟩
    exact fun j l => iff_of_false nofun fun hl => overdue hl.1
  | @failed d' e reply inTime =>
    have hfails : ¬ (host.timeline i w).handshake.Succeeds := by
      intro hsucceeds
      exact hsucceeds.not_fails ⟨d', e, reply⟩
    refine ⟨[], [], (hcompiling.answer _ _ _).note {}, ?_, .inr ⟨rfl, fun ls hls => hfails hls.2.1⟩⟩
    exact fun j l => iff_of_false nofun fun hl => hfails hl.2.1.succeeds
  | @rejected d' line reply inTime bad =>
    rw [inTime_handshake_iff launch] at inTime
    have hbad : ¬ (host.timeline i w).Compiles := by
      rw [compiles_iff reply, bad]
      exact Bool.false_ne_true
    obtain ⟨left, hk, hleft⟩ := reports_noteRest host i.budget
      (((hcompiling.answer .handshake d' (host.opened i w)).note
        (r := .handshakeRejected line) {}))
    have hclock := clock_opened launch reply
    refine ⟨[], left, hk, fun j l => iff_of_false nofun fun hl => hbad hl.2.1, ?_⟩
    rcases hleft with ⟨e, hreply, hinTime⟩ | ⟨rfl, hnone⟩
    · refine .inl ⟨⟨inTime, ⟨d', line, reply⟩, hbad, e, hreply, ?_⟩, phase_noteRest _, rfl⟩
      rw [← hclock]
      exact hinTime
    · refine .inr ⟨rfl, fun ls hls => hnone ?_⟩
      obtain ⟨-, -, -, e, hreply, hinTime⟩ := hls
      rw [← hclock] at hinTime
      exact ⟨e, ls, hreply, hinTime⟩
  | @streamed d' line ls q k ph reply inTime good short reads stops =>
    rw [inTime_handshake_iff launch] at inTime
    have hgood := (compiles_iff reply).2 good
    have hopening : (opening (host.pid (host.opened i w))
        ((compiling (launched host i w d)).answer .handshake d' (host.opened i w))).Reports [] [] :=
      ((hcompiling.answer _ _ _).note {}).move nofun
    obtain ⟨read, hk, hread⟩ :=
      (readTo_opening _ launch reply).prints inTime hgood reads stops hopening
    exact ⟨read, [], hk, hread, .inr ⟨rfl, fun ls hls => hls.2.2.1 hgood⟩⟩

/-! ### Whole runs -/

/-- The kill is noted only if it fails. -/
theorem records_killed (host : Host σ) (p : Progress σ) (d : Nat) (a : Except ProcessError Unit)
    (w : σ) :
    ∃ notes, (killed host d a w p).records = notes ++ p.records ∧ ∀ x ∈ notes, x.Quiet := by
  cases a with
  | ok u => exact ⟨[], rfl, nofun⟩
  | error e =>
    refine ⟨[.killFailed e (host.pid w)], rfl, fun x hx => ?_⟩
    rw [List.mem_singleton.1 hx]
    exact {}

/-- The records of a run whose child was launched: those up to its last phase, that phase, and after
    it `notes` about a failed kill and the end. -/
structure Closing (k : Progress σ) (ph : Phase) (notes : List Record) (v : RunResult)
    (elapsed : Nat) (records : List Record) : Prop where
  records_eq : records = k.records.reverse ++ .transition k.phase ph ::
    (notes ++ [.finished v.status v.findings.size elapsed])
  quiet : ∀ x ∈ notes, x.Quiet

theorem Runs.closing {L : Nat} (h : Runs host c fuel i w r)
    (launch : (host.launch i w).1 = .after L (.ok ())) :
    ∃ v k ph d a notes, r.result = .ok v ∧
      Supervises host c i.budget fuel (launched host i w L) ph k ∧
      (host.kill k.world).1 = .after d a ∧ r.elapsed = k.clock + d ∧
      Closing k ph notes v r.elapsed r.records := by
  cases h with
  | unlaunched reply => cases launch.symm.trans reply
  | @supervised d d' a ph k reply course kill =>
    cases launch.symm.trans reply
    obtain ⟨notes, hnotes, hquiet⟩ :=
      records_killed host (k.move ph) d' a (host.kill k.world).2
    have hmove : (k.move ph).records = .transition k.phase ph :: k.records := rfl
    rw [hmove] at hnotes
    refine ⟨resultIn ph k, k, ph, d', a, notes.reverse, rfl, course, kill, clock_killed d' a _, ?_⟩
    refine ⟨?_, fun x hx => hquiet x (List.mem_reverse.1 hx)⟩
    simp only [report, finished, Progress.note, hnotes]
    simp

namespace Closing

variable {notes records : List Record} {v : RunResult} {elapsed : Nat}

/-- After its last phase a run notes no line and enters no phase. -/
theorem after (h : Closing k ph notes v elapsed records) :
    ∀ x ∈ notes ++ [.finished v.status v.findings.size elapsed],
      x.output? = none ∧ x.leftover? = none ∧ ¬ Record.Enters .error x.entry := by
  intro x hx
  rcases List.mem_append.1 hx with hx | hx
  · have hquiet := h.quiet x hx
    exact ⟨hquiet.output, hquiet.leftover, Record.not_enters_error hquiet.goesOn⟩
  · cases List.mem_singleton.1 hx
    exact ⟨rfl, rfl, Record.not_enters_finished⟩

theorem outputs (h : Closing k ph notes v elapsed records) (hk : k.Reports read left) :
    records.filterMap Record.output? = read := by
  have hafter := List.filterMap_eq_nil_iff.2 fun x hx => (h.after x hx).1
  rw [h.records_eq, List.filterMap_append, hk.read, List.filterMap_cons_none rfl, hafter,
    List.append_nil]

theorem leftovers (h : Closing k ph notes v elapsed records) (hk : k.Reports read left) :
    records.filterMap Record.leftover? = left := by
  have hafter := List.filterMap_eq_nil_iff.2 fun x hx => (h.after x hx).2.1
  rw [h.records_eq, List.filterMap_append, hk.left, List.filterMap_cons_none rfl, hafter,
    List.append_nil]

/-- A run that ends in the phase of errors has noted all lines before it enters that, once. -/
theorem error (h : Closing k .error notes v elapsed records) (hk : k.Reports read left)
    (hphase : k.phase = .compilingInput) :
    ∃ before after, records.map Record.entry =
        before ++ Record.entry (.transition .compilingInput .error) :: after ∧
      (∀ e ∈ before ++ after, ¬ Record.Enters .error e) ∧
      ∀ e ∈ after, ¬ (e.level = .warn ∧ e.message = Record.outputMessage) := by
  refine ⟨k.records.reverse.map Record.entry,
    (notes ++ [Record.finished v.status v.findings.size elapsed]).map Record.entry, ?_, ?_, ?_⟩
  · rw [h.records_eq, hphase, List.map_append, List.map_cons]
  · intro e he
    rcases List.mem_append.1 he with he | he
    · obtain ⟨x, hx, rfl⟩ := List.mem_map.1 he
      exact Record.not_enters_error (hk.goesOn x (List.mem_reverse.1 hx))
    · obtain ⟨x, hx, rfl⟩ := List.mem_map.1 he
      exact (h.after x hx).2.2
  · intro e he
    obtain ⟨x, hx, rfl⟩ := List.mem_map.1 he
    rw [Record.isLeftover_iff, (h.after x hx).2.1]
    exact nofun

/-- Only the last record is about the end of the run. -/
theorem finished_last (h : Closing k ph notes v elapsed records) (hk : k.Reports read left) :
    ∃ before, records.map Record.entry = before ++ [Record.finishedEntry v elapsed] ∧
      ∀ e ∈ before, e.message ≠ Record.finishedMessage := by
  refine ⟨(k.records.reverse ++ .transition k.phase ph :: notes).map Record.entry, ?_, ?_⟩
  · rw [h.records_eq, ← List.cons_append, ← List.append_assoc, List.map_append]
    rfl
  · intro e he
    obtain ⟨x, hx, rfl⟩ := List.mem_map.1 he
    rcases List.mem_append.1 hx with hx | hx
    · exact Record.message_ne_finished (.inl (hk.goesOn x (List.mem_reverse.1 hx)))
    · rcases List.mem_cons.1 hx with rfl | hx
      · exact Record.message_ne_finished (.inr ⟨_, rfl⟩)
      · exact Record.message_ne_finished (.inl (h.quiet x hx).goesOn)

end Closing

/-- The log of a run whose child was launched tells its session. The lines that it traced are those
    that it read; those that it warned of are the ones that were left in time when the handshake was
    rejected, and they come before the phase of errors; and only its last entry is about its end, with
    the result and the time at which the kill has returned. -/
theorem run_log_faithful {L : Nat} (h : run host c clock fuel i w = .finished r)
    (launch : (host.launch i w).1 = .after L (.ok ())) :
    ∃ v read left, r.result = .ok v ∧
      (r.records.map Record.entry).filter
          (fun e => e.level = .trace ∧ e.message = Record.outputMessage) =
        read.map (Record.outputEntry .trace) ∧
      (host.timeline i w).Prints c i.budget read ∧
      (r.records.map Record.entry).filter
          (fun e => e.level = .warn ∧ e.message = Record.outputMessage) =
        left.map (Record.outputEntry .warn) ∧
      ((host.Leaves i w left ∧
          ∃ before after, r.records.map Record.entry =
              before ++ Record.entry (.transition .compilingInput .error) :: after ∧
            (∀ e ∈ before ++ after, ¬ Record.Enters .error e) ∧
            ∀ e ∈ after, ¬ (e.level = .warn ∧ e.message = Record.outputMessage)) ∨
        left = [] ∧ ∀ ls, ¬ host.Leaves i w ls) ∧
      (∃ before, r.records.map Record.entry = before ++ [Record.finishedEntry v r.elapsed] ∧
        ∀ e ∈ before, e.message ≠ Record.finishedMessage) ∧
      ∃ ph k d a, Supervises host c i.budget fuel (launched host i w L) ph k ∧
        (host.kill k.world).1 = .after d a ∧ r.elapsed = k.clock + d := by
  obtain ⟨v, k, ph, d, a, notes, hv, course, kill, helapsed, closing⟩ :=
    (run_eq_finished_iff.1 h).2.closing launch
  obtain ⟨read, left, hk, hread, hleft⟩ := course.reports launch
  refine ⟨v, read, left, hv, ?_, hread, ?_, ?_, closing.finished_last hk, ph, k, d, a, course, kill,
    helapsed⟩
  · rw [Record.filter_outputs, closing.outputs hk]
  · rw [Record.filter_leftovers, closing.leftovers hk]
  · rcases hleft with ⟨hleaves, hphase, rfl⟩ | hnone
    · exact .inl ⟨hleaves, closing.error hk hphase⟩
    · exact .inr hnone

/-- A child that cannot compile its input and prints two more lines, and whose kill fails. -/
theorem run_log_faithful_rejected :
    let s : Script := ⟨.after 3 (.ok ()),
      .after 2 (.ok (some "Trying to compile a.c ... FAILED".toList)), [],
      .after 1 (.ok [⟨.stderr, "no such file".toList⟩, ⟨.stdout, "bye".toList⟩]),
      .after 5 (.error (.killFailed []))⟩
    let i : Invocation := ⟨"slllvm".toList, [], [], 10⟩
    ∃ r v, (run (Script.host 7) .builtin 0 1 i s = .finished r ∧ s.launch = .after 3 (.ok ())) ∧
      r.result = .ok v ∧
      (r.records.map Record.entry).filter
          (fun e => e.level = .warn ∧ e.message = Record.outputMessage) =
        [⟨.warn, "Analyser output".toList, [("stream".toList, .text "stderr".toList),
            ("line".toList, .text "no such file".toList)]⟩,
          ⟨.warn, "Analyser output".toList, [("stream".toList, .text "stdout".toList),
            ("line".toList, .text "bye".toList)]⟩] ∧
      ∃ before, r.records.map Record.entry = before ++ [Record.finishedEntry v r.elapsed] := by
  intro s i
  obtain ⟨r, h⟩ : ∃ r, run (Script.host 7) .builtin 0 1 i s = .finished r := ⟨_, rfl⟩
  have launch : ((Script.host 7).launch i s).1 = .after 3 (.ok ()) := rfl
  have reply : ((Script.host 7).handshake ((Script.host 7).launched i s)).1 =
      .after 2 (.ok (some "Trying to compile a.c ... FAILED".toList)) := rfl
  have opened : ((Script.host 7).timeline i s).OpensInTime i.budget :=
    (inTime_handshake_iff launch).1 (Reply.inTime_after.2 (.inr (by decide)))
  have bad : ¬ ((Script.host 7).timeline i s).Compiles := by
    rw [compiles_iff reply]
    decide
  have drained : s.drain.InTime i.budget ((Script.host 7).timeline i s).opening := by
    rw [← clock_opened launch reply]
    exact Reply.inTime_after.2 (.inr (by decide))
  obtain ⟨v, read, left, hv, -, -, hleft, hleaves, ⟨before, hlast, -⟩, -⟩ :=
    run_log_faithful h launch
  refine ⟨r, v, ⟨h, rfl⟩, hv, ?_, before, hlast⟩
  rw [hleft]
  rcases hleaves with ⟨⟨-, -, -, d, hdrain, -⟩, -⟩ | ⟨-, hnone⟩
  · cases hdrain
    rfl
  · exact absurd ⟨opened, ⟨2, _, rfl⟩, bad, 1, rfl, drained⟩ (hnone _)

end Supervisor

end Overseer
