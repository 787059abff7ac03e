import Mathlib.Data.Option.Basic
import Overseer.Proofs.Diagnostic.Table
import Overseer.Proofs.Supervisor.Soundness

/-! ## Runs with more rows in the table

A run with more rows in its table goes exactly as before and only finds more, up to an error that
the smaller table cannot explain. The two runs are kept in step: `FindsMore` says that one is where
the other is and has found at least as much, every event keeps it, and so does everything before and
after the events, which no table has any part in. The tables are any lists of patterns with their
kinds, in whatever syntax they may have been written: a row counts only by the lines that its pattern
occurs in. -/

namespace Overseer

/-! ### What a run reads -/

namespace Timeline

/-- A run with a given budget reads event `n`: its child is launched and compiles its input in time,
    and the event is consumed. -/
structure Sees (t : Timeline) (c : Classifier) (budget n : Nat) : Prop where
  launched : t.launch.Succeeds
  opened : t.OpensInTime budget
  good : t.Compiles
  consumed : t.Consumed c budget n

/-- A run with a given budget reads an error that the table cannot explain, and ends there. -/
def EndsUnclassified (t : Timeline) (c : Classifier) (budget : Nat) : Prop :=
  ∃ n l, t.Sees c budget n ∧ t.Brings n l ∧ c.signal l.text = .unclassifiedError

/-- Every consumed line is explained by the table, as far as it is an error. -/
def Explained (t : Timeline) (c : Classifier) (budget : Nat) : Prop :=
  ∀ n l, t.Consumed c budget n → t.Brings n l → c.signal l.text ≠ .unclassifiedError

variable {t : Timeline} {c e x : Classifier} {budget n : Nat} {v : RunResult} {f : Finding}

theorem explained_of_opened (h : ¬ t.EndsUnclassified c budget) (launched : t.launch.Succeeds)
    (opened : t.OpensInTime budget) (good : t.Compiles) : t.Explained c budget :=
  fun n l consumed brings signal =>
    h ⟨n, l, ⟨launched, opened, good, consumed⟩, brings, signal⟩

/-- What is consumed with a table is consumed with more rows. -/
theorem Consumed.of_joins (joins : e.Joins c x) (h : t.Consumed c budget n) :
    t.Consumed e budget n := by
  induction h with
  | intro _ passed asked arrived ih =>
    refine .intro ih (fun j hj => ?_) asked arrived
    obtain ⟨l, brings, signal⟩ := passes_iff.1 (passed j hj)
    have hsignal : e.signal l.text = c.signal l.text := by
      refine joins.signal_eq ?_
      rw [signal]
      nofun
    exact passes_iff.2 ⟨l, brings, hsignal.trans signal⟩

/-- With more rows nothing else is consumed, if the table explains what it consumes. -/
theorem Consumed.of_joined (joins : e.Joins c x) (explained : t.Explained c budget)
    (h : t.Consumed e budget n) : t.Consumed c budget n := by
  induction h with
  | intro _ passed asked arrived ih =>
    refine .intro ih (fun j hj => ?_) asked arrived
    obtain ⟨l, brings, signal⟩ := passes_iff.1 (passed j hj)
    have hsignal : e.signal l.text = c.signal l.text :=
      joins.signal_eq (explained j l (ih j hj) brings)
    exact passes_iff.2 ⟨l, brings, hsignal.symm.trans signal⟩

theorem sees_iff (joins : e.Joins c x) (h : ¬ t.EndsUnclassified c budget) :
    t.Sees e budget n ↔ t.Sees c budget n := by
  constructor
  · rintro ⟨launched, opened, good, consumed⟩
    have explained := explained_of_opened h launched opened good
    exact ⟨launched, opened, good, consumed.of_joined joins explained⟩
  · rintro ⟨launched, opened, good, consumed⟩
    exact ⟨launched, opened, good, consumed.of_joins joins⟩

theorem mem_findings_of_joins (joins : e.Joins c x) :
    f ∈ (t.event n).findings e ↔ f ∈ (t.event n).findings c ∨ f ∈ (t.event n).findings x := by
  simp only [mem_findings_iff, joins.mem_findings, and_or_left, exists_or]

/-- An ok verdict reports what the lines report that the run reads. -/
theorem Verdict.mem_findings_iff (h : t.Verdict c budget v) (hok : v.status = .ok)
    (launched : t.launch.Succeeds) :
    f ∈ v.findings ↔ ∃ n, t.Sees c budget n ∧ f ∈ (t.event n).findings c := by
  obtain ⟨n, last, opened, good, completes, findings⟩ := h.completes hok
  rw [findings]
  constructor
  · rintro ⟨j, hj, hf⟩
    exact ⟨j, ⟨launched, opened, good, (completes.consumed j).2 hj⟩, hf⟩
  · rintro ⟨j, sees, hf⟩
    exact ⟨j, (completes.consumed j).1 sees.consumed, hf⟩

end Timeline

/-! ### Runs in step -/

variable {σ : Type}

/-- The same status, and at least the same findings. -/
structure RunResult.FindsMore (v v' : RunResult) : Prop where
  status : v'.status = v.status
  findings : ∀ f ∈ v.findings, f ∈ v'.findings

theorem RunResult.findsMore_ofStatus {fs fs' : FindingSet} (s : RunStatus)
    (h : ∀ f ∈ fs, f ∈ fs') : (ofStatus s fs).FindsMore (ofStatus s fs') := by
  cases s with
  | ok => exact ⟨rfl, h⟩
  | _ => exact ⟨rfl, fun _ => id⟩

/-- The second run is where the first one is, and has found at least as much. -/
def Progress.FindsMore (p p' : Progress σ) : Prop :=
  ∃ fs, (∀ f ∈ p.findings, f ∈ fs) ∧ p' = { p with findings := fs }

/-- Two runs that went alike: both end with the same status after the same time, having made the same
    calls and left the same world behind, and they noted the same, but for the number of findings in
    the last record. The second one found at least as much. -/
structure RunReport.SameCourse (r r' : RunReport σ) : Prop where
  result : ∃ v v', r.result = .ok v ∧ r'.result = .ok v' ∧ v.FindsMore v'
  calls : r'.calls = r.calls
  records : r'.records.dropLast = r.records.dropLast
  elapsed : r'.elapsed = r.elapsed
  world : r'.world = r.world

theorem RunReport.SameCourse.refl {r : RunReport σ} {v : RunResult} (h : r.result = .ok v) :
    r.SameCourse r :=
  ⟨⟨v, v, h, h, rfl, fun _ => id⟩, rfl, rfl, rfl, rfl⟩

/-- Both runs end and went alike, or neither of them ends, or neither begins. -/
inductive Outcome.SameCourse : Outcome σ → Outcome σ → Prop
  | overflow : SameCourse .overflow .overflow
  | unfinished : SameCourse .unfinished .unfinished
  | finished {r r' : RunReport σ} (same : r.SameCourse r') : SameCourse (.finished r) (.finished r')

namespace Progress

variable {p p' : Progress σ} {c e x : Classifier}

theorem FindsMore.refl (p : Progress σ) : p.FindsMore p := ⟨p.findings, fun _ => id, rfl⟩

theorem FindsMore.note (h : p.FindsMore p') (r : Record) : (p.note r).FindsMore (p'.note r) := by
  obtain ⟨fs, hfs, rfl⟩ := h
  exact ⟨fs, hfs, rfl⟩

theorem FindsMore.move (h : p.FindsMore p') (q : Phase) : (p.move q).FindsMore (p'.move q) := by
  obtain ⟨fs, hfs, rfl⟩ := h
  exact ⟨fs, hfs, rfl⟩

theorem FindsMore.answer (h : p.FindsMore p') (k : Call) (d : Nat) (w : σ) :
    (p.answer k d w).FindsMore (p'.answer k d w) := by
  obtain ⟨fs, hfs, rfl⟩ := h
  exact ⟨fs, hfs, rfl⟩

theorem FindsMore.giveUp (h : p.FindsMore p') (k : Call) (deadline : Nat) :
    (p.giveUp k deadline).FindsMore (p'.giveUp k deadline) := by
  obtain ⟨fs, hfs, rfl⟩ := h
  exact ⟨fs, hfs, rfl⟩

/-- With more rows a line adds at least as much to what was found. -/
theorem FindsMore.absorb (h : p.FindsMore p') (joins : e.Joins c x) (l : OutputLine) :
    (p.absorb c l).FindsMore (p'.absorb e l) := by
  obtain ⟨fs, hfs, rfl⟩ := h
  refine ⟨fs.union (e.classify l.text).findings, fun f hf => ?_, rfl⟩
  rw [FindingSet.mem_union, joins.mem_findings]
  rcases FindingSet.mem_union.1 hf with hf | hf
  · exact .inl (hfs f hf)
  · exact .inr (.inl hf)

end Progress

namespace Supervisor

open Progress

/-- The second run is over but for killing the child if the first one is, and it found at least as
    much. -/
structure Ending.FindsMore (k k' : Ending σ) : Prop where
  result : ∃ v v', k.result = .ok v ∧ k'.result = .ok v' ∧ v.FindsMore v'
  progress : k.progress.FindsMore k'.progress

variable {host : Host σ} {c e x : Classifier} {deadline fuel clock n : Nat} {i : Invocation} {w : σ}
  {p p' q k : Progress σ} {ph : Phase}

theorem findsMore_conclude (h : p.FindsMore p') (leads : p.phase.Leads ph) :
    (conclude ph p).FindsMore (conclude ph p') := by
  obtain ⟨fs, hfs, rfl⟩ := h
  have leads' : ({ p with findings := fs } : Progress σ).phase.Leads ph := leads
  rw [conclude_resultIn leads, conclude_resultIn leads']
  exact ⟨⟨_, _, rfl, rfl, RunResult.findsMore_ofStatus _ hfs⟩, FindsMore.move ⟨fs, hfs, rfl⟩ ph⟩

/-! ### Events -/

/-- What ends the reading ends it with more rows too, if the next line has the same signal. -/
theorem Stops.findsMore (h : Stops host c deadline p ph k) (hp : p.FindsMore p')
    (joins : e.Joins c x)
    (signal_eq : ∀ d l, p.clock < deadline → (host.nextEvent p.world).1 = .after d (.ok (.line l)) →
      (host.nextEvent p.world).1.InTime deadline p.clock → e.signal l.text = c.signal l.text) :
    ∃ k', Stops host e deadline p' ph k' ∧ k.FindsMore k' := by
  have hp' := hp
  obtain ⟨fs, hfs, rfl⟩ := hp'
  cases h with
  | late late => exact ⟨_, .late late, hp.note _⟩
  | expired early overdue => exact ⟨_, .expired early overdue, (hp.giveUp _ _).note _⟩
  | failed early reply inTime =>
    exact ⟨_, .failed early reply inTime, (hp.answer _ _ _).note _⟩
  | exited early reply inTime =>
    exact ⟨_, .exited early reply inTime, (hp.answer _ _ _).note _⟩
  | @decided d l _ r early reply inTime signal =>
    rw [← signal_eq d l early reply inTime] at signal
    exact ⟨_, .decided early reply inTime signal, ((hp.answer _ _ _).absorb joins l).note r⟩

/-- The loops over the events stay in step. -/
theorem ReadTo.stream_findsMore (joins : e.Joins c x)
    (explained : (host.timeline i w).Explained c deadline) (h : ReadTo host c deadline i w n p)
    (streaming : p.phase = .streaming) (hp : p.FindsMore p') :
    Option.Rel Ending.FindsMore (stream host c deadline fuel p)
      (stream host e deadline fuel p') := by
  induction fuel generalizing n p p' with
  | zero => exact .none
  | succ fuel ih =>
    have signal_eq : ∀ d l, p.clock < deadline →
        (host.nextEvent p.world).1 = .after d (.ok (.line l)) →
        (host.nextEvent p.world).1.InTime deadline p.clock →
        e.signal l.text = c.signal l.text := fun d l early reply inTime =>
      joins.signal_eq (explained n l (h.consumed_iff.2 ⟨early, inTime⟩) ⟨d, h.event ▸ reply⟩)
    rcases stops_or_reads host c deadline p with ⟨ph, k, hstop⟩ | ⟨d, l, early, reply, inTime, hs⟩
    · obtain ⟨k', hstop', hk⟩ := hstop.findsMore hp joins signal_eq
      rw [stream_of_stops hstop, stream_of_stops hstop']
      exact .some (findsMore_conclude hk (hstop.leads streaming))
    · have hs' : e.signal l.text = .none := (signal_eq d l early reply inTime).trans hs
      have hnext := ih (h.step early reply inTime hs) streaming
        ((hp.answer .nextEvent d (host.nextEvent p.world).2).absorb joins l)
      obtain ⟨fs, hfs, rfl⟩ := hp
      rw [stream_line early reply inTime, stream_line (p := { p with findings := fs }) early reply
        inTime, Signal.ending?_eq_none.2 hs, Signal.ending?_eq_none.2 hs']
      exact hnext

/-! ### From launch to kill -/

/-- Up to the first event no table is used, and from there the runs stay in step. -/
theorem supervise_findsMore (fuel : Nat) {d : Nat} (joins : e.Joins c x)
    (classified : ¬ (host.timeline i w).EndsUnclassified c deadline)
    (launch : (host.launch i w).1 = .after d (.ok ())) :
    Option.Rel Ending.FindsMore (supervise host c deadline fuel (launched host i w d))
      (supervise host e deadline fuel (launched host i w d)) := by
  rcases (host.handshake (host.launched i w)).1.overdue_or_answers deadline
    (launched host i w d).clock with overdue | ⟨d', a, reply, inTime⟩
  · rw [supervise_overdue rfl overdue, supervise_overdue rfl overdue]
    exact .some (findsMore_conclude (.refl _) (by decide : Phase.compilingInput.Leads .timedOut))
  match a, reply with
  | .error cause, reply =>
    rw [supervise_failed rfl reply inTime, supervise_failed rfl reply inTime]
    exact .some (findsMore_conclude (.refl _) (by decide : Phase.compilingInput.Leads .error))
  | .ok line, reply =>
    cases good : acceptsHandshake line with
    | false =>
      rw [supervise_rejected rfl reply inTime good, supervise_rejected rfl reply inTime good]
      refine .some (findsMore_conclude (.refl _) ?_)
      rw [phase_noteRest]
      exact (by decide : Phase.compilingInput.Leads .error)
    | true =>
      have explained : (host.timeline i w).Explained c deadline :=
        Timeline.explained_of_opened classified ⟨d, (), launch⟩
          ((inTime_handshake_iff launch).1 inTime) ((compiles_iff reply).2 good)
      rw [supervise_accepted rfl reply inTime good, supervise_accepted rfl reply inTime good]
      exact (readTo_opening _ launch reply).stream_findsMore joins explained rfl (.refl _)

/-- The runs still go alike when their children are killed. -/
theorem Ending.FindsMore.cleanUp {k k' : Ending σ} (h : k.FindsMore k') :
    Option.Rel (fun k k' => (report k).SameCourse (report k')) (cleanUp host k)
      (cleanUp host k') := by
  obtain ⟨⟨v, v', hv, hv', hmore⟩, fs, _, hp⟩ := h
  obtain ⟨result, p⟩ := k
  obtain ⟨result', p'⟩ := k'
  cases hv
  cases hv'
  cases hp
  match kill : (host.kill p.world).1 with
  | .never =>
    rw [cleanUp_never kill, cleanUp_never (p := { p with findings := fs }) kill]
    exact .none
  | .after d a =>
    rw [cleanUp_after kill, cleanUp_after (p := { p with findings := fs }) kill]
    refine .some ⟨⟨v, v', rfl, rfl, hmore⟩, ?_, ?_, ?_, ?_⟩
    · cases a <;> rfl
    · cases a <;> simp [report, finished, killed, Progress.note, Progress.answer]
    · cases a <;> rfl
    · cases a <;> rfl

/-! ### Whole runs -/

theorem runUntil_sameCourse (fuel : Nat) (joins : e.Joins c x)
    (classified : ¬ (host.timeline i w).EndsUnclassified c deadline) :
    Option.Rel (fun k k' => (report k).SameCourse (report k'))
      (runUntil host c fuel i deadline w) (runUntil host e fuel i deadline w) := by
  match launch : (host.launch i w).1 with
  | .never =>
    rw [runUntil_never launch, runUntil_never launch]
    exact .none
  | .after d (.error cause) =>
    rw [runUntil_failed launch, runUntil_failed launch]
    exact .some (.refl rfl)
  | .after d (.ok ()) =>
    rw [runUntil_launched launch, runUntil_launched launch]
    have hrel := supervise_findsMore fuel joins classified launch
    generalize supervise host c deadline fuel (launched host i w d) = o at hrel ⊢
    generalize supervise host e deadline fuel (launched host i w d) = o' at hrel ⊢
    cases hrel with
    | none => exact .none
    | some h => exact h.cleanUp

theorem run_sameCourse (joins : e.Joins c x)
    (classified : ¬ (host.timeline i w).EndsUnclassified c i.budget) :
    (run host c clock fuel i w).SameCourse (run host e clock fuel i w) := by
  unfold run
  split
  · exact .overflow
  · have hrel := runUntil_sameCourse fuel joins classified
    generalize runUntil host c fuel i i.budget w = o at hrel ⊢
    generalize runUntil host e fuel i i.budget w = o' at hrel ⊢
    cases hrel with
    | none => exact .unfinished
    | some h => exact .finished h

/-! ### The rows of a table -/

theorem stream_congr (h : ∀ line, e.classify line = c.classify line) (p : Progress σ) :
    stream host e deadline fuel p = stream host c deadline fuel p := by
  induction fuel generalizing p with
  | zero => rfl
  | succ fuel ih => simp only [stream, h, ih]

theorem supervise_congr (h : ∀ line, e.classify line = c.classify line) (p : Progress σ) :
    supervise host e deadline fuel p = supervise host c deadline fuel p := by
  simp only [supervise, stream_congr h]

/-- Tables that say the same of every line make no difference to any run. -/
theorem run_congr (h : ∀ line, e.classify line = c.classify line) :
    run host e clock fuel i w = run host c clock fuel i w := by
  simp only [run, runUntil, supervise_congr h]

/-- A run that ends with another status than an error has explained every error. -/
theorem not_endsUnclassified {r : RunReport σ} {v : RunResult}
    (h : run host c clock fuel i w = .finished r) (hr : r.result = .ok v)
    (hv : v.status ≠ .error) : ¬ (host.timeline i w).EndsUnclassified c i.budget := by
  rintro ⟨n, l, sees, ⟨d, brings⟩, signal⟩
  obtain ⟨v', hv', verdict⟩ := (run_eq_finished_iff.1 h).2.verdict sees.launched
  cases hr.symm.trans hv'
  have hstatus : ((host.timeline i w).event n).status? c = some .error := by
    rw [brings]
    change (c.signal l.text).status? = some .error
    rw [signal]
    rfl
  obtain ⟨fs, rfl, -⟩ := verdict.eq_of_status sees.opened sees.good sees.consumed hstatus
  exact hv (RunResult.status_ofStatus .error fs)

/-- With the rows of a second table after those of a first one, a run goes as with the first table
    alone, unless it ends there at an error that the first table cannot explain. If it is ok, it
    reports what either table finds in the lines that it reads. The order of the rows and how often
    they come make no difference at all. -/
theorem run_append_rows (P X : List (Pattern × List Kind)) (clock fuel : Nat) (i : Invocation)
    (w : σ) (classified : ¬ (host.timeline i w).EndsUnclassified ⟨P⟩ i.budget) :
    (run host ⟨P⟩ clock fuel i w).SameCourse (run host ⟨P ++ X⟩ clock fuel i w) ∧
      (∀ n, (host.timeline i w).Sees ⟨P ++ X⟩ i.budget n ↔
        (host.timeline i w).Sees ⟨P⟩ i.budget n) ∧
      (∀ r v, run host ⟨P ++ X⟩ clock fuel i w = .finished r → r.result = .ok v →
        v.status = .ok → ∀ f, f ∈ v.findings ↔ ∃ n, (host.timeline i w).Sees ⟨P⟩ i.budget n ∧
          (f ∈ ((host.timeline i w).event n).findings ⟨P⟩ ∨
            f ∈ ((host.timeline i w).event n).findings ⟨X⟩)) ∧
      ∀ Q, (∀ row, row ∈ Q ↔ row ∈ P ++ X) →
        run host ⟨Q⟩ clock fuel i w = run host ⟨P ++ X⟩ clock fuel i w := by
  have joins : (⟨P ++ X⟩ : Classifier).Joins ⟨P⟩ ⟨X⟩ := Classifier.joins_append P X
  have sees_iff : ∀ n, (host.timeline i w).Sees ⟨P ++ X⟩ i.budget n ↔
      (host.timeline i w).Sees ⟨P⟩ i.budget n := fun n => Timeline.sees_iff joins classified
  refine ⟨run_sameCourse joins classified, sees_iff, ?_, ?_⟩
  · intro r v h hr hok f
    have hruns := (run_eq_finished_iff.1 h).2
    have launched := hruns.launched_of_ok hr hok
    obtain ⟨v', hv', verdict⟩ := hruns.verdict launched
    cases hr.symm.trans hv'
    simp only [verdict.mem_findings_iff hok launched, sees_iff,
      Timeline.mem_findings_of_joins joins]
  · exact fun Q hQ => run_congr fun _ => Classifier.classify_eq hQ

/-- A table of one row, and a second row for a line that the first one says nothing about. -/
theorem run_append_rows_leak :
    let P : List (Pattern × List Kind) := [(.literal "NULL".toList, [.invalidAccess])]
    let X : List (Pattern × List Kind) := [(.literal "leak".toList, [.leak])]
    let s : Script := ⟨.after 3 (.ok ()),
      .after 2 (.ok (some "Trying to compile a.c ... OK".toList)),
      [.after 1 (.ok (.line ⟨.stderr, "a.c:12:3: error: NULL".toList⟩)),
        .now (.line ⟨.stderr, "a.c:7: warning: leak".toList⟩),
        .after 4 (.ok (.line ⟨.stdout, "clEasyRun() took 1 s".toList⟩))], .never, .now ()⟩
    let i : Invocation := ⟨"slllvm".toList, [], [], 10⟩
    let t := (Script.host 7).timeline i s
    ¬ t.EndsUnclassified ⟨P⟩ i.budget ∧
      (run (Script.host 7) ⟨P⟩ 0 4 i s).SameCourse (run (Script.host 7) ⟨P ++ X⟩ 0 4 i s) ∧
      (∀ n, t.Sees ⟨P ++ X⟩ i.budget n ↔ t.Sees ⟨P⟩ i.budget n) ∧
      (∀ r v, run (Script.host 7) ⟨P ++ X⟩ 0 4 i s = .finished r → r.result = .ok v →
        v.status = .ok → ∀ f, f ∈ v.findings ↔ ∃ n, t.Sees ⟨P⟩ i.budget n ∧
          (f ∈ (t.event n).findings ⟨P⟩ ∨ f ∈ (t.event n).findings ⟨X⟩)) ∧
      ∀ Q, (∀ row, row ∈ Q ↔ row ∈ P ++ X) →
        run (Script.host 7) ⟨Q⟩ 0 4 i s = run (Script.host 7) ⟨P ++ X⟩ 0 4 i s := by
  intro P X s i t
  have hv : (run (Script.host 7) ⟨P⟩ 0 4 i s).result? =
      some ⟨.ok, ⟨[⟨⟨12, by decide, by decide⟩, some ⟨3, by decide, by decide⟩, .invalidAccess⟩],
        by decide⟩⟩ := by
    decide +kernel
  obtain ⟨r, h, hr⟩ := Outcome.result?_eq_some.1 hv
  have classified : ¬ t.EndsUnclassified ⟨P⟩ i.budget := not_endsUnclassified h hr nofun
  exact ⟨classified, run_append_rows P X 0 4 i s classified⟩

end Supervisor

end Overseer
