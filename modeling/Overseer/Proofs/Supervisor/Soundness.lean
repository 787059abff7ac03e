import Overseer.Proofs.Diagnostic.Signal
import Overseer.Proofs.Supervisor.CallOrder
import Overseer.Proofs.Supervisor.Verdict

/-! ## Results that are ok

An ok result hides nothing. The run ended at the completion mark, every line up to it is supported,
every error on the way to it is among the findings, and every finding was reported by a line. The
argument is about timelines: the verdict of one is ok only if the consumed event that decides is a
line with the completion mark, and the lines before it decide nothing. -/

namespace Overseer

/-! ### Lines of a timeline -/

namespace Timeline

variable {t : Timeline} {c : Classifier} {budget n : Nat}

/-- The reply to reading event `n` brings a line. -/
def Brings (t : Timeline) (n : Nat) (l : OutputLine) : Prop :=
  ∃ d, t.event n = .after d (.ok (.line l))

theorem Brings.unique {l l' : OutputLine} (h : t.Brings n l) (h' : t.Brings n l') : l = l' := by
  obtain ⟨d, h⟩ := h
  obtain ⟨d', h'⟩ := h'
  cases h.symm.trans h'
  rfl

theorem passes_iff :
    (t.event n).Passes c ↔ ∃ l, t.Brings n l ∧ c.signal l.text = .none := by
  constructor
  · rintro ⟨d, l, h, hs⟩
    exact ⟨l, ⟨d, h⟩, hs⟩
  · rintro ⟨l, ⟨d, h⟩, hs⟩
    exact ⟨d, l, h, hs⟩

/-- An event ends a run well exactly if it is a line with the completion mark. -/
theorem status?_eq_ok_iff :
    (t.event n).status? c = some .ok ↔ ∃ l, t.Brings n l ∧ c.signal l.text = .completion := by
  constructor
  · intro h
    match hr : t.event n with
    | .never => rw [hr] at h; cases h
    | .after d (.error e) => rw [hr] at h; cases h
    | .after d (.ok (.exited code)) => rw [hr] at h; cases h
    | .after d (.ok (.line l)) =>
      rw [hr] at h
      refine ⟨l, ⟨d, hr⟩, ?_⟩
      change (c.signal l.text).status? = some .ok at h
      cases hs : c.signal l.text with
      | completion => rfl
      | none => rw [hs] at h; cases h
      | unsupportedFeature => rw [hs] at h; cases h
      | unclassifiedError => rw [hs] at h; cases h
  · rintro ⟨l, ⟨d, h⟩, hs⟩
    rw [h]
    change (c.signal l.text).status? = some .ok
    rw [hs]
    rfl

theorem mem_findings_iff {f : Finding} :
    f ∈ (t.event n).findings c ↔ ∃ l, t.Brings n l ∧ f ∈ (c.classify l.text).findings := by
  constructor
  · intro h
    match hr : t.event n with
    | .never => rw [hr] at h; exact absurd h FindingSet.not_mem_empty
    | .after d (.error e) => rw [hr] at h; exact absurd h FindingSet.not_mem_empty
    | .after d (.ok (.exited code)) => rw [hr] at h; exact absurd h FindingSet.not_mem_empty
    | .after d (.ok (.line l)) =>
      rw [hr] at h
      exact ⟨l, ⟨d, hr⟩, h⟩
  · rintro ⟨l, ⟨d, h⟩, hf⟩
    rw [h]
    exact hf

/-- A run with a given budget consumes the events up to `n`: lines that decide nothing, and a last
    one that ends the run well. -/
structure Completes (t : Timeline) (c : Classifier) (budget n : Nat) (last : OutputLine) :
    Prop where
  consumed : ∀ j, t.Consumed c budget j ↔ j ≤ n
  passed : ∀ j < n, ∃ l, t.Brings j l ∧ c.signal l.text = .none
  brings : t.Brings n last
  completion : c.signal last.text = .completion

namespace Completes

variable {last : OutputLine}

theorem not_passes (h : t.Completes c budget n last) : ¬ (t.event n).Passes c := by
  rw [passes_iff]
  rintro ⟨l, hl, hs⟩
  cases hl.unique h.brings
  rw [h.completion] at hs
  cases hs

theorem complete (h : t.Completes c budget n last) :
    ∃ p ∈ Signal.completionPatterns, p.Occurs last.text :=
  (Signal.detect_eq_completion_iff.1 h.completion).2

/-- No consumed line is about an unsupported feature. -/
theorem supported (h : t.Completes c budget n last) {j : Nat} (hj : j ≤ n) :
    ∃ l, t.Brings j l ∧ ∀ p ∈ Signal.unsupportedPatterns, ¬ p.Occurs l.text := by
  rcases Nat.lt_or_eq_of_le hj with hlt | rfl
  · obtain ⟨l, hl, hs⟩ := h.passed j hlt
    refine ⟨l, hl, fun p hp hocc => ?_⟩
    exact (Signal.detect_eq_none_iff.1 hs).1 ⟨p, hp, hocc⟩
  · refine ⟨last, h.brings, fun p hp hocc => ?_⟩
    exact (Signal.detect_eq_completion_iff.1 h.completion).1 ⟨p, hp, hocc⟩

/-- Every error before the last line is reported or only traced. -/
theorem reported (h : t.Completes c budget n last) {j : Nat} (hj : j < n) {l : OutputLine}
    (hl : t.Brings j l) (error : Signal.errorMark <:+: l.text)
    (untraced : ¬ Classifier.traceMark <:+: l.text) : ∃ f, f ∈ (c.classify l.text).findings := by
  obtain ⟨l', hl', hs⟩ := h.passed j hj
  cases hl.unique hl'
  refine ((Signal.detect_eq_none_iff.1 hs).2.2 error).resolve_right fun htrace => ?_
  exact untraced (Classifier.isTrace_classify.1 htrace)

end Completes

/-- If the verdict is ok, the last consumed event is a line with the completion mark, and the lines
    up to it report what is found. -/
theorem Verdict.completes {v : RunResult} (h : t.Verdict c budget v) (hok : v.status = .ok) :
    ∃ n last, t.OpensInTime budget ∧ t.Compiles ∧ t.Completes c budget n last ∧
      ∀ f, f ∈ v.findings ↔ ∃ j ≤ n, f ∈ (t.event j).findings c := by
  cases h with
  | unopened _ => cases hok
  | rejected _ _ => cases hok
  | undecided _ _ _ => cases hok
  | @decided n s fs opened good consumed status findings =>
    rw [RunResult.status_ofStatus] at hok
    subst hok
    obtain ⟨last, hlast, hs⟩ := status?_eq_ok_iff.1 status
    refine ⟨n, last, opened, good, ⟨fun j => ?_, fun j hj => ?_, hlast, hs⟩, findings⟩
    · constructor
      · intro hj
        exact hj.le_of_status status
      · intro hj
        rcases Nat.lt_or_eq_of_le hj with hlt | rfl
        · exact (consumed.of_lt hlt).1
        · exact consumed
    · exact passes_iff.1 (consumed.of_lt hj).2

end Timeline

/-! ### Runs -/

namespace Supervisor

variable {σ : Type} {host : Host σ} {c : Classifier} {clock fuel : Nat} {i : Invocation} {w : σ}
  {r : RunReport σ} {v : RunResult}

/-- A run whose child was not launched is not ok. -/
theorem Runs.launched_of_ok (h : Runs host c fuel i w r) (hr : r.result = .ok v)
    (hok : v.status = .ok) : (host.timeline i w).launch.Succeeds := by
  cases h with
  | unlaunched _ =>
    cases hr
    cases hok
  | supervised reply _ _ => exact ⟨_, _, reply⟩

/-- A run that is ok consumed events up to the completion mark, asked for no others, and reports what
    they report. -/
theorem Runs.completes (h : Runs host c fuel i w r) (hr : r.result = .ok v) (hok : v.status = .ok) :
    ∃ n last, (host.timeline i w).Completes c i.budget n last ∧
      r.calls.count .nextEvent = n + 1 ∧
      ∀ f, f ∈ v.findings ↔ ∃ j ≤ n, f ∈ ((host.timeline i w).event j).findings c := by
  have launched := h.launched_of_ok hr hok
  obtain ⟨v', hv', hverdict⟩ := h.verdict launched
  cases hr.symm.trans hv'
  obtain ⟨n, last, opened, good, completes, findings⟩ := hverdict.completes hok
  have hasked := ((completes.consumed n).2 le_rfl).asked
  have hle := h.calls.count_nextEvent_le completes.not_passes
  have hlt := h.calls.lt_count_nextEvent_iff.2 ⟨launched, opened, good, hasked⟩
  exact ⟨n, last, completes, le_antisymm hle hlt, findings⟩

/-- A run that is ok read its session up to a line with the completion mark, found no unsupported
    feature, and reports exactly what the lines that are no traces reported, of every error before
    the last line at least one finding. -/
theorem run_ok_hides_nothing (h : run host c clock fuel i w = .finished r)
    (hr : r.result = .ok v) (hok : v.status = .ok) :
    ∃ n last,
      (∀ j, (host.timeline i w).Consumed c i.budget j ↔ j ≤ n) ∧
      r.calls.count .nextEvent = n + 1 ∧
      (host.timeline i w).Brings n last ∧
      (∃ p ∈ Signal.completionPatterns, p.Occurs last.text) ∧
      (∀ j ≤ n, ∃ l, (host.timeline i w).Brings j l ∧
        ∀ p ∈ Signal.unsupportedPatterns, ¬ p.Occurs l.text) ∧
      (∀ j < n, ∀ l, (host.timeline i w).Brings j l → Signal.errorMark <:+: l.text →
        ¬ Classifier.traceMark <:+: l.text →
        ∃ f ∈ (c.classify l.text).findings, f ∈ v.findings) ∧
      ∀ f, f ∈ v.findings ↔ ∃ j ≤ n, ∃ l, (host.timeline i w).Brings j l ∧
        ¬ Classifier.traceMark <:+: l.text ∧ f ∈ (c.classify l.text).findings := by
  obtain ⟨n, last, completes, hcount, findings⟩ := (run_eq_finished_iff.1 h).2.completes hr hok
  refine ⟨n, last, completes.consumed, hcount, completes.brings, completes.complete,
    fun j => completes.supported, ?_, ?_⟩
  · intro j hj l hl error untraced
    obtain ⟨f, hf⟩ := completes.reported hj hl error untraced
    exact ⟨f, hf, (findings f).2 ⟨j, hj.le, Timeline.mem_findings_iff.2 ⟨l, hl, hf⟩⟩⟩
  · intro f
    rw [findings]
    constructor
    · rintro ⟨j, hj, hf⟩
      obtain ⟨l, hl, hf⟩ := Timeline.mem_findings_iff.1 hf
      exact ⟨j, hj, l, hl, Classifier.not_trace_of_mem hf, hf⟩
    · rintro ⟨j, hj, l, hl, _, hf⟩
      exact ⟨j, hj, Timeline.mem_findings_iff.2 ⟨l, hl, hf⟩⟩

/-- A finding on the way to the completion mark. -/
theorem run_ok_hides_nothing_oneFinding :
    let s : Script := ⟨.after 3 (.ok ()),
      .after 2 (.ok (some "Trying to compile a.c ... OK".toList)),
      [.after 1 (.ok (.line ⟨.stderr, "a.c:12:3: error: NULL".toList⟩)),
        .after 4 (.ok (.line ⟨.stdout, "clEasyRun() took 1 s".toList⟩))], .never, .now ()⟩
    let i : Invocation := ⟨"slllvm".toList, [], [], 10⟩
    let c : Classifier := ⟨[(.literal "NULL".toList, [.invalidAccess])]⟩
    let t := (Script.host 7).timeline i s
    ∃ r v, run (Script.host 7) c 0 3 i s = .finished r ∧ r.result = .ok v ∧ v.status = .ok ∧
      ∃ n last, (∀ j, t.Consumed c 10 j ↔ j ≤ n) ∧ r.calls.count .nextEvent = n + 1 ∧
        t.Brings n last ∧ (∃ p ∈ Signal.completionPatterns, p.Occurs last.text) ∧
        (∀ j ≤ n, ∃ l, t.Brings j l ∧ ∀ p ∈ Signal.unsupportedPatterns, ¬ p.Occurs l.text) ∧
        (∀ j < n, ∀ l, t.Brings j l → Signal.errorMark <:+: l.text →
          ¬ Classifier.traceMark <:+: l.text →
          ∃ f ∈ (c.classify l.text).findings, f ∈ v.findings) ∧
        ∀ f, f ∈ v.findings ↔ ∃ j ≤ n, ∃ l, t.Brings j l ∧
          ¬ Classifier.traceMark <:+: l.text ∧ f ∈ (c.classify l.text).findings := by
  intro s i c t
  have hv : (run (Script.host 7) c 0 3 i s).result? =
      some ⟨.ok, ⟨[⟨⟨12, by decide, by decide⟩, some ⟨3, by decide, by decide⟩, .invalidAccess⟩],
        by decide⟩⟩ := by
    decide +kernel
  obtain ⟨r, h, hr⟩ := Outcome.result?_eq_some.1 hv
  exact ⟨r, _, h, hr, rfl, run_ok_hides_nothing h hr rfl⟩

end Supervisor

end Overseer
