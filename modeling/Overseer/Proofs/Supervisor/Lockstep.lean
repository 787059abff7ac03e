import Overseer.Proofs.Supervisor.Course

/-! ## Runs in step

A run sees of its host only the replies. So if two hosts reply alike, each in its own world, then
runs over them do the same things at the same times, and only the worlds that they leave may differ.
A relation between the worlds that every call keeps is what carries this through a run. -/

namespace Overseer

variable {σ τ α : Type}

/-! ### Hosts that reply alike -/

/-- A call has the same reply in both worlds and keeps them related. -/
structure Reply.Agrees (R : σ → τ → Prop) (a : Reply α × σ) (a' : Reply α × τ) : Prop where
  reply : a'.1 = a.1
  world : R a.2 a'.2

/-- Once a child was launched, two hosts reply alike in related worlds. -/
structure Host.Agrees (R : σ → τ → Prop) (host : Host σ) (host' : Host τ) : Prop where
  handshake : ∀ {w w'}, R w w' → Reply.Agrees R (host.handshake w) (host'.handshake w')
  nextEvent : ∀ {w w'}, R w w' → Reply.Agrees R (host.nextEvent w) (host'.nextEvent w')
  drain : ∀ {w w'}, R w w' → Reply.Agrees R (host.drain w) (host'.drain w')
  kill : ∀ {w w'}, R w w' → Reply.Agrees R (host.kill w) (host'.kill w')
  pid : ∀ {w w'}, R w w' → host'.pid w' = host.pid w

/-- A run as it would be in another world. -/
def Progress.inWorld (w : τ) (p : Progress σ) : Progress τ :=
  ⟨w, p.clock, p.phase, p.findings, p.calls, p.records⟩

/-- Two runs did the same and came to the same, whatever became of their worlds. -/
structure RunReport.Matches (r : RunReport σ) (r' : RunReport τ) : Prop where
  result : r.result = r'.result
  calls : r.calls = r'.calls
  records : r.records = r'.records
  elapsed : r.elapsed = r'.elapsed

namespace Supervisor

open Progress

variable {R : σ → τ → Prop} {host : Host σ} {host' : Host τ} {c : Classifier}
  {deadline fuel : Nat} {i : Invocation} {p q k : Progress σ} {w : σ} {w' : τ}
  {ls : List OutputLine} {ph : Phase}

/-! ### Between launch and kill -/

theorem Reads.inStep (agrees : host.Agrees R host') (h : Reads host c deadline p ls q)
    (hw : R p.world w') :
    ∃ v, R q.world v ∧ Reads host' c deadline (p.inWorld w') ls (q.inWorld v) := by
  induction h generalizing w' with
  | nil => exact ⟨w', hw, .nil⟩
  | cons early reply inTime signal _ ih =>
    have next := agrees.nextEvent hw
    obtain ⟨v, hv, rest⟩ := ih next.world
    rw [← next.reply] at reply inTime
    exact ⟨v, hv, .cons early reply inTime signal rest⟩

theorem Stops.inStep (agrees : host.Agrees R host') (h : Stops host c deadline p ph k)
    (hw : R p.world w') :
    ∃ v, R k.world v ∧ Stops host' c deadline (p.inWorld w') ph (k.inWorld v) := by
  have next := agrees.nextEvent hw
  cases h with
  | late late => exact ⟨w', hw, .late late⟩
  | expired early overdue =>
    rw [← next.reply] at overdue
    exact ⟨w', hw, .expired early overdue⟩
  | failed early reply inTime =>
    rw [← next.reply] at reply inTime
    exact ⟨_, next.world, .failed early reply inTime⟩
  | exited early reply inTime =>
    rw [← next.reply] at reply inTime
    exact ⟨_, next.world, .exited early reply inTime⟩
  | decided early reply inTime signal =>
    rw [← next.reply] at reply inTime
    exact ⟨_, next.world, .decided early reply inTime signal⟩

theorem noteRest_inStep (agrees : host.Agrees R host') (hw : R p.world w') :
    ∃ v, R (noteRest host deadline p).world v ∧
      noteRest host' deadline (p.inWorld w') = (noteRest host deadline p).inWorld v := by
  have next := agrees.drain hw
  unfold noteRest
  rcases (host.drain p.world).1.overdue_or_answers deadline p.clock with overdue | ⟨d, a, hr, hin⟩
  · have overdue' : ¬ (host'.drain w').1.InTime deadline p.clock := by rwa [next.reply]
    rw [callWithin_overdue overdue, callWithin_overdue (p := p.inWorld w') overdue']
    exact ⟨w', hw, rfl⟩
  · have hr' : (host'.drain w').1 = .after d a := next.reply.trans hr
    have hin' : (host'.drain w').1.InTime deadline p.clock := by rwa [next.reply]
    rw [callWithin_answered hr hin, callWithin_answered (p := p.inWorld w') hr' hin']
    refine ⟨(host'.drain w').2, ?_⟩
    cases a with
    | error e => exact ⟨next.world, rfl⟩
    | ok lines =>
      simp only [noteLeftovers_eq]
      exact ⟨next.world, rfl⟩

theorem Supervises.inStep (agrees : host.Agrees R host')
    (h : Supervises host c deadline fuel p ph k) (hw : R p.world w') :
    ∃ v, R k.world v ∧ Supervises host' c deadline fuel (p.inWorld w') ph (k.inWorld v) := by
  have opened := agrees.handshake hw
  cases h with
  | unopened overdue =>
    rw [← opened.reply] at overdue
    exact ⟨w', hw, .unopened overdue⟩
  | failed reply inTime =>
    rw [← opened.reply] at reply inTime
    exact ⟨_, opened.world, .failed reply inTime⟩
  | @rejected d line reply inTime bad =>
    let told := ((compiling p).answer .handshake d (host.handshake p.world).2).note
      (.handshakeRejected line)
    have worlds : R told.world (host'.handshake w').2 := opened.world
    obtain ⟨v, hv, hrest⟩ := noteRest_inStep agrees worlds
    rw [← opened.reply] at reply inTime
    refine ⟨v, hv, ?_⟩
    rw [← hrest]
    exact .rejected reply inTime bad
  | streamed reply inTime good short reads stops =>
    obtain ⟨u, hu, reads'⟩ := reads.inStep agrees opened.world
    obtain ⟨v, hv, stops'⟩ := stops.inStep agrees hu
    rw [← opened.reply] at reply inTime
    rw [← agrees.pid opened.world] at reads'
    exact ⟨v, hv, .streamed reply inTime good short reads' stops'⟩

/-! ### Whole runs -/

/-- A run goes as in any world in which launching the child goes the same way, if the hosts reply
    alike from then on. -/
theorem Runs.inStep {r : RunReport σ} (agrees : host.Agrees R host')
    (launch : (host'.launch i w').1 = (host.launch i w).1)
    (launched : (host.launch i w).1.Succeeds → R (host.launch i w).2 (host'.launch i w').2)
    (h : Runs host c fuel i w r) : ∃ r', Runs host' c fuel i w' r' ∧ r.Matches r' := by
  cases h with
  | unlaunched reply =>
    exact ⟨_, .unlaunched (launch.trans reply), ⟨rfl, rfl, rfl, rfl⟩⟩
  | @supervised d d' a ph k reply course kill =>
    obtain ⟨v, hv, course'⟩ := course.inStep agrees (launched ⟨d, (), reply⟩)
    have killed := agrees.kill hv
    have kill' : (host'.kill v).1 = .after d' a := killed.reply.trans kill
    refine ⟨_, .supervised (launch.trans reply) course' kill', ?_⟩
    cases a with
    | ok => exact ⟨rfl, rfl, rfl, rfl⟩
    | error e =>
      refine ⟨rfl, rfl, ?_, rfl⟩
      simp only [report, finished, Supervisor.killed, note, answer, move, inWorld,
        agrees.pid killed.world]
      rfl

end Supervisor

end Overseer
