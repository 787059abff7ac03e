import Overseer.Proofs.Session.Timeline

/-! ## Sessions without delay

Where a child is there at once and has its output ready, a run reads it up to the first event that
decides. The lines before that one count only by what they report. -/

namespace Overseer

/-- An event after which no other is read: the child is gone, or its line decides. -/
def Event.Decides (c : Classifier) : Event → Prop
  | .exited _ => True
  | .line l => c.signal l.text ≠ .none

theorem Event.Decides.exists_status {c : Classifier} {e : Event} (h : e.Decides c) :
    ∃ s, (Reply.now e).status? c = some s := by
  match e, h with
  | .exited _, _ => exact ⟨.error, rfl⟩
  | .line l, h =>
    change ∃ s, (c.signal l.text).status? = some s
    cases hs : c.signal l.text with
    | none => exact absurd hs h
    | unsupportedFeature => exact ⟨.unknown, rfl⟩
    | completion => exact ⟨.ok, rfl⟩
    | unclassifiedError => exact ⟨.error, rfl⟩

/-- The lines of `ls` and those of `ls'` that report something have the same texts, in any order, any
    number of times and on any stream. -/
def Classifier.SameReports (c : Classifier) (ls ls' : List OutputLine) : Prop :=
  ∀ text, (∃ f, f ∈ (c.classify text).findings) →
    (text ∈ ls.map (·.text) ↔ text ∈ ls'.map (·.text))

theorem Classifier.SameReports.mem_iff {c : Classifier} {ls ls' : List OutputLine} {f : Finding}
    (h : c.SameReports ls ls') :
    (∃ l ∈ ls, f ∈ (c.classify l.text).findings) ↔
      ∃ l ∈ ls', f ∈ (c.classify l.text).findings := by
  have htexts : ∀ ls : List OutputLine, (∃ l ∈ ls, f ∈ (c.classify l.text).findings) ↔
      ∃ text ∈ ls.map (·.text), f ∈ (c.classify text).findings := by simp
  rw [htexts ls, htexts ls']
  constructor
  · rintro ⟨text, htext, hf⟩
    exact ⟨text, (h text ⟨f, hf⟩).1 htext, hf⟩
  · rintro ⟨text, htext, hf⟩
    exact ⟨text, (h text ⟨f, hf⟩).2 htext, hf⟩

namespace Script

/-- A child that is there at once, says at once that it compiled its input, and then has lines ready
    that decide nothing and after them an event that decides. -/
structure Prompt (s : Script) (c : Classifier) (ls : List OutputLine) (e : Event) : Prop where
  launch : s.launch = .now ()
  handshake : ∃ line, s.handshake = .now (some line) ∧
    Supervisor.compileMark <:+: line ∧ Supervisor.okMark <:+: line
  events : ∃ rest, s.events = (ls.map fun l => .now (.line l)) ++ .now e :: rest
  quiet : ∀ l ∈ ls, c.signal l.text = .none
  decides : e.Decides c

namespace Prompt

variable {s : Script} {c : Classifier} {ls : List OutputLine} {e : Event} {budget n : Nat}
  {v : RunResult}

theorem opensInTime (h : s.Prompt c ls e) : s.timeline.OpensInTime budget := by
  obtain ⟨line, hline, -⟩ := h.handshake
  refine .inl ?_
  change s.handshake.delay = 0
  rw [hline]
  rfl

theorem compiles (h : s.Prompt c ls e) : s.timeline.Compiles := by
  obtain ⟨line, hline, marks⟩ := h.handshake
  exact ⟨0, line, hline, marks⟩

theorem event_of_lt (h : s.Prompt c ls e) (hn : n < ls.length) :
    s.timeline.event n = .now (.line ls[n]) := by
  obtain ⟨rest, hevents⟩ := h.events
  change s.events[n]?.getD _ = _
  rw [hevents, List.getElem?_append_left (by simpa using hn), List.getElem?_map,
    List.getElem?_eq_getElem hn]
  rfl

theorem event_length (h : s.Prompt c ls e) : s.timeline.event ls.length = .now e := by
  obtain ⟨rest, hevents⟩ := h.events
  change s.events[ls.length]?.getD _ = _
  rw [hevents, List.getElem?_append_right (by simp)]
  simp

theorem delay_event (h : s.Prompt c ls e) (hn : n ≤ ls.length) :
    (s.timeline.event n).delay = 0 := by
  rcases Nat.lt_or_eq_of_le hn with hlt | rfl
  · rw [h.event_of_lt hlt]
    rfl
  · rw [h.event_length]
    rfl

/-- Nothing takes any time up to the event that decides. -/
theorem arrival_eq_zero (h : s.Prompt c ls e) (hn : n ≤ ls.length + 1) :
    s.timeline.arrival n = 0 := by
  induction n with
  | zero =>
    obtain ⟨line, hline, -⟩ := h.handshake
    change s.launch.delay + s.handshake.delay = 0
    rw [h.launch, hline]
    rfl
  | succ n ih =>
    rw [Timeline.arrival_succ, ih (Nat.le_of_succ_le hn), h.delay_event (Nat.le_of_succ_le_succ hn)]
    rfl

theorem passes (h : s.Prompt c ls e) (hn : n < ls.length) : (s.timeline.event n).Passes c := by
  rw [h.event_of_lt hn]
  exact ⟨0, ls[n], rfl, h.quiet _ (List.getElem_mem hn)⟩

/-- A run reads up to the event that decides, if it has any time at all. -/
theorem consumed (h : s.Prompt c ls e) (positive : 0 < budget) (hn : n ≤ ls.length) :
    s.timeline.Consumed c budget n := by
  induction n using Nat.strong_induction_on with
  | _ n ih =>
    refine .intro (fun j hj => ih j hj (hj.le.trans hn)) (fun j hj => h.passes (hj.trans_le hn))
      ?_ ?_
    · rw [h.arrival_eq_zero (Nat.le_succ_of_le hn)]
      exact_mod_cast positive
    · rw [h.arrival_eq_zero (Nat.succ_le_succ hn)]
      exact zero_le

theorem findings_iff (h : s.Prompt c ls e) {f : Finding} :
    (∃ n ≤ ls.length, f ∈ (s.timeline.event n).findings c) ↔
      (∃ l ∈ ls, f ∈ (c.classify l.text).findings) ∨ f ∈ (Reply.now e).findings c := by
  constructor
  · rintro ⟨n, hn, hf⟩
    rcases Nat.lt_or_eq_of_le hn with hlt | rfl
    · rw [h.event_of_lt hlt] at hf
      exact .inl ⟨ls[n], List.getElem_mem hlt, hf⟩
    · rw [h.event_length] at hf
      exact .inr hf
  · rintro (⟨l, hl, hf⟩ | hf)
    · obtain ⟨n, hn, rfl⟩ := List.getElem_of_mem hl
      refine ⟨n, hn.le, ?_⟩
      rw [h.event_of_lt hn]
      exact hf
    · refine ⟨ls.length, le_rfl, ?_⟩
      rw [h.event_length]
      exact hf

/-- The verdict has the status of the event that decides, and it reports what this event and the
    lines before it do. -/
theorem eq_of_verdict (h : s.Prompt c ls e) (positive : 0 < budget)
    (hv : s.timeline.Verdict c budget v) :
    ∃ st fs, (Reply.now e).status? c = some st ∧ v = .ofStatus st fs ∧
      ∀ f, f ∈ fs ↔
        (∃ l ∈ ls, f ∈ (c.classify l.text).findings) ∨ f ∈ (Reply.now e).findings c := by
  obtain ⟨st, hst⟩ := h.decides.exists_status
  have hstatus : (s.timeline.event ls.length).status? c = some st := by
    rw [h.event_length]
    exact hst
  obtain ⟨fs, hfs, findings⟩ :=
    hv.eq_of_status h.opensInTime h.compiles (h.consumed positive le_rfl) hstatus
  exact ⟨st, fs, hst, hfs, fun f => (findings f).trans h.findings_iff⟩

end Prompt

/-- The verdict depends on the lines before the event that decides only by the set of those that
    report something. -/
theorem Prompt.verdict_unique {s s' : Script} {c : Classifier} {ls ls' : List OutputLine}
    {e : Event} {budget : Nat} {v v' : RunResult} (h : s.Prompt c ls e) (h' : s'.Prompt c ls' e)
    (reports : c.SameReports ls ls') (positive : 0 < budget)
    (hv : s.timeline.Verdict c budget v) (hv' : s'.timeline.Verdict c budget v') : v = v' := by
  obtain ⟨st, fs, status, rfl, findings⟩ := h.eq_of_verdict positive hv
  obtain ⟨st', fs', status', rfl, findings'⟩ := h'.eq_of_verdict positive hv'
  cases status.symm.trans status'
  have hfs : fs = fs' := FindingSet.ext fun f => by
    rw [findings, findings', reports.mem_iff]
  rw [hfs]

end Script

end Overseer
