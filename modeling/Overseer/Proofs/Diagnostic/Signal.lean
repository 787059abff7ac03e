import Overseer.Diagnostic.Signal
import Overseer.Proofs.Pattern.Search

/-! ## What a signal says about its line

The cascade that finds the signal of a line, told from the patterns and marks that occur in it. -/

namespace Overseer

variable {line : Text}

/-! ### Classifications -/

theorem FindingSet.isEmpty_eq_false {s : FindingSet} : s.isEmpty = false ↔ ∃ f, f ∈ s := by
  unfold isEmpty
  rw [List.isEmpty_eq_false_iff_exists_mem]
  exact Iff.rfl

theorem Classification.ext {c d : Classification} (findings : ∀ f, f ∈ c.findings ↔ f ∈ d.findings)
    (isTrace : c.isTrace = true ↔ d.isTrace = true) : c = d := by
  have hfindings : c.findings = d.findings := FindingSet.ext findings
  have htrace : c.isTrace = d.isTrace := Bool.eq_iff_iff.2 isTrace
  cases c
  cases d
  simp_all

theorem Classifier.isTrace_classify {c : Classifier} :
    (c.classify line).isTrace = true ↔ traceMark <:+: line := by
  rw [← Text.occursIn_iff]
  unfold classify
  split
  · next h => exact iff_of_true rfl h
  · next h => exact iff_of_false Bool.false_ne_true h

/-- A line with the trace mark reports nothing. -/
theorem Classifier.not_trace_of_mem {c : Classifier} {f : Finding}
    (h : f ∈ (c.classify line).findings) : ¬ traceMark <:+: line := by
  intro htrace
  rw [← Text.occursIn_iff] at htrace
  unfold classify at h
  rw [if_pos htrace] at h
  exact FindingSet.not_mem_empty h

/-! ### The cascade -/

namespace Signal

theorem anyOccurs_iff {ps : List Pattern} : anyOccurs ps line = true ↔ ∃ p ∈ ps, p.Occurs line := by
  unfold anyOccurs
  rw [List.any_eq_true]
  simp only [Pattern.search_iff]

variable {c : Classification}

theorem detect_eq_unsupportedFeature_iff :
    detect line c = .unsupportedFeature ↔ ∃ p ∈ unsupportedPatterns, p.Occurs line := by
  rw [← anyOccurs_iff]
  unfold detect
  by_cases hu : anyOccurs unsupportedPatterns line = true
  · simp [hu]
  · rw [if_neg hu]
    refine iff_of_false ?_ hu
    repeat' split
    all_goals simp

theorem detect_eq_completion_iff :
    detect line c = .completion ↔
      (¬ ∃ p ∈ unsupportedPatterns, p.Occurs line) ∧ ∃ p ∈ completionPatterns, p.Occurs line := by
  simp only [← anyOccurs_iff]
  unfold detect
  by_cases hu : anyOccurs unsupportedPatterns line = true
  · simp [hu]
  by_cases hc : anyOccurs completionPatterns line = true
  · simp [hu, hc]
  · rw [if_neg hu, if_neg hc]
    refine iff_of_false ?_ fun h => hc h.2
    split <;> simp

/-- A line decides nothing if no pattern occurs in it and every error in it is reported or only
    traced. -/
theorem detect_eq_none_iff :
    detect line c = .none ↔
      (¬ ∃ p ∈ unsupportedPatterns, p.Occurs line) ∧ (¬ ∃ p ∈ completionPatterns, p.Occurs line) ∧
        (errorMark <:+: line → (∃ f, f ∈ c.findings) ∨ c.isTrace = true) := by
  simp only [← anyOccurs_iff, ← FindingSet.isEmpty_eq_false, ← Text.occursIn_iff]
  unfold detect
  by_cases hu : anyOccurs unsupportedPatterns line = true
  · simp [hu]
  by_cases hc : anyOccurs completionPatterns line = true
  · simp [hu, hc]
  · rw [if_neg hu, if_neg hc]
    cases errorMark.occursIn line <;> cases c.findings.isEmpty <;> cases c.isTrace <;> simp [hu, hc]

end Signal

end Overseer
