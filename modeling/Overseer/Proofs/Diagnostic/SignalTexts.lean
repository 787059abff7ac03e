import Overseer.Proofs.Diagnostic.Unambiguous

/-! ## Signals told from the texts in a line

Which signal a line gives is a matter of a few texts that stand in it. One of the patterns has gaps,
so that three texts have to stand one behind the other on one line of text. What stands in a line
still stands there when something is written before or behind it. -/

namespace Overseer

variable {line s t u before mid rest : Text} {c : Classification}

/-! ### Texts with gaps -/

namespace Pattern

theorem behind_append (p : Pattern) : behind (s ++ t) p = behind s (behind t p) :=
  List.foldr_append

theorem occurs_behind_literal_iff : (behind s (.literal t)).Occurs line ↔ s ++ t <:+: line := by
  simp only [Occurs, matches_behind, matches_iff_mem_texts (texts?_literal t), List.mem_singleton]
  constructor
  · rintro ⟨before, _, rest, rfl, _, rfl, rfl⟩
    exact ⟨before, rest, rfl⟩
  · rintro ⟨before, rest, rfl⟩
    exact ⟨before, s ++ t, rest, rfl, t, rfl, rfl⟩

/-- Any number of characters on one line. -/
abbrev gap : Pattern := .many (.oneOf .anyButNewline)

theorem matches_gap : Matches gap before mid rest ↔ '\n' ∉ mid := by
  have hany (d : Char) : CharSet.anyButNewline.contains d = true ↔ d ≠ '\n' := by
    rw [CharSet.anyButNewline, CharSet.contains, Bool.not_eq_true', ← Bool.not_eq_true,
      CharSet.contains_single]
  rw [gap, matches_many_oneOf]
  simp only [hany]
  exact ⟨fun h hmem => h _ hmem rfl, fun h d hd heq => h (heq ▸ hd)⟩

/-- Three texts one behind the other, with gaps between them. -/
theorem occurs_gaps_iff :
    (behind s (.seq gap (behind t (.seq gap (.literal u))))).Occurs line ↔
      ∃ before a b rest, line = before ++ s ++ a ++ t ++ b ++ u ++ rest ∧ '\n' ∉ a ∧ '\n' ∉ b := by
  simp only [Occurs, matches_behind, matches_seq, matches_gap,
    matches_iff_mem_texts (texts?_literal u), List.mem_singleton]
  constructor
  · rintro ⟨before, _, rest, rfl, _, rfl, a, _, rfl, ha, _, rfl, b, _, rfl, hb, rfl⟩
    exact ⟨before, a, b, rest, by simp, ha, hb⟩
  · rintro ⟨before, a, b, rest, rfl, ha, hb⟩
    exact ⟨before, s ++ (a ++ (t ++ (b ++ u))), rest, by simp, _, rfl, a, _, rfl, ha, _, rfl, b, u,
      rfl, hb, rfl⟩

end Pattern

/-! ### Warnings about unsupported features -/

namespace Signal

/-- What an analyser that guarantees nothing any more has written. -/
inductive WarnsUnsupported (line : Text) : Prop
  | undefinedFunction (text : ": warning: ignoring call of undefined function: ".toList <:+: line)
  | uninitializedValue
      (text : ": warning: conditional jump depends on uninitialized value".toList <:+: line)
  | integerFlow {before a b rest : Text}
      (texts : line = before ++ ": warning: possible ".toList ++ a ++ "flow of ".toList ++ b ++
        " integer".toList ++ rest) (gap : '\n' ∉ a) (gap' : '\n' ∉ b)

theorem exists_unsupported_iff :
    (∃ p ∈ unsupportedPatterns, p.Occurs line) ↔ WarnsUnsupported line := by
  simp only [unsupportedPatterns_eq, warningPatterns, List.map_cons, List.map_nil,
    List.exists_mem_cons_iff, List.not_mem_nil, false_and, exists_false, or_false,
    ← Pattern.behind_append, Pattern.occurs_behind_literal_iff, Pattern.occurs_gaps_iff,
    ← String.toList_append, String.reduceAppend]
  constructor
  · rintro (h | h | ⟨before, a, b, rest, texts, gap, gap'⟩)
    · exact .undefinedFunction h
    · exact .uninitializedValue h
    · exact .integerFlow texts gap gap'
  · rintro (h | h | @⟨before, a, b, rest, texts, gap, gap'⟩)
    · exact .inl h
    · exact .inr (.inl h)
    · exact .inr (.inr ⟨before, a, b, rest, texts, gap, gap'⟩)

/-- Whatever is written before it and behind it, a warning stays one. -/
theorem WarnsUnsupported.append (h : WarnsUnsupported line) (before rest : Text) :
    WarnsUnsupported (before ++ line ++ rest) := by
  have hline : line <:+: before ++ line ++ rest := ⟨before, rest, rfl⟩
  cases h with
  | undefinedFunction text => exact .undefinedFunction (text.trans hline)
  | uninitializedValue text => exact .uninitializedValue (text.trans hline)
  | @integerFlow before' a b rest' texts gap gap' =>
    subst texts
    exact @integerFlow _ (before ++ before') a b (rest' ++ rest) (by simp only [List.append_assoc])
      gap gap'

/-! ### The cascade -/

theorem exists_completion_iff :
    (∃ p ∈ completionPatterns, p.Occurs line) ↔ completionMark <:+: line := by
  rw [← anyOccurs_iff, DiagnosticText.anyOccurs_completion_iff]

/-- The line has the mark of an error, and the classifier neither reports it nor takes it for a
    trace. -/
structure IsUnexplained (line : Text) (c : Classification) : Prop where
  error : errorMark <:+: line
  unreported : ∀ f, f ∉ c.findings
  untraced : c.isTrace = false

theorem not_isUnexplained_iff :
    ¬ IsUnexplained line c ↔ (errorMark <:+: line → (∃ f, f ∈ c.findings) ∨ c.isTrace = true) := by
  constructor
  · intro h error
    by_contra hnone
    rw [not_or, not_exists, Bool.not_eq_true] at hnone
    exact h ⟨error, hnone.1, hnone.2⟩
  · rintro h ⟨error, unreported, untraced⟩
    rcases h error with ⟨f, hf⟩ | traced
    · exact unreported f hf
    · cases traced.symm.trans untraced

theorem detect_eq_unsupportedFeature_iff_warns :
    detect line c = .unsupportedFeature ↔ WarnsUnsupported line := by
  rw [detect_eq_unsupportedFeature_iff, exists_unsupported_iff]

theorem detect_eq_completion_iff_mark :
    detect line c = .completion ↔ ¬ WarnsUnsupported line ∧ completionMark <:+: line := by
  rw [detect_eq_completion_iff, exists_unsupported_iff, exists_completion_iff]

theorem detect_eq_none_iff_not_unexplained :
    detect line c = .none ↔
      ¬ WarnsUnsupported line ∧ ¬ completionMark <:+: line ∧ ¬ IsUnexplained line c := by
  rw [detect_eq_none_iff, exists_unsupported_iff, exists_completion_iff, not_isUnexplained_iff]

/-- It is the signal that is left. -/
theorem detect_eq_unclassifiedError_iff :
    detect line c = .unclassifiedError ↔
      ¬ WarnsUnsupported line ∧ ¬ completionMark <:+: line ∧ IsUnexplained line c := by
  have hunsupported := @detect_eq_unsupportedFeature_iff_warns line c
  have hcompletion := @detect_eq_completion_iff_mark line c
  have hnone := @detect_eq_none_iff_not_unexplained line c
  cases hsignal : detect line c <;> simp only [hsignal] at hunsupported hcompletion hnone <;> tauto

/-! ### Signals and texts -/

/-- The signal of a line is that of the first of these that holds: it warns of an unsupported
    feature, it has the completion mark, it has an error that is not explained; and there is none if
    none of them holds. By any table, a line that warns of an unsupported feature gives this signal
    whatever is written before it and behind it. -/
theorem detect_by_texts (line : Text) (c : Classification) :
    (detect line c = .unsupportedFeature ↔ WarnsUnsupported line) ∧
    (detect line c = .completion ↔ ¬ WarnsUnsupported line ∧ completionMark <:+: line) ∧
    (detect line c = .unclassifiedError ↔
      ¬ WarnsUnsupported line ∧ ¬ completionMark <:+: line ∧ IsUnexplained line c) ∧
    (detect line c = .none ↔
      ¬ WarnsUnsupported line ∧ ¬ completionMark <:+: line ∧ ¬ IsUnexplained line c) ∧
    ∀ (table : Classifier) (before rest : Text), table.signal line = .unsupportedFeature →
      table.signal (before ++ line ++ rest) = .unsupportedFeature := by
  refine ⟨detect_eq_unsupportedFeature_iff_warns, detect_eq_completion_iff_mark,
    detect_eq_unclassifiedError_iff, detect_eq_none_iff_not_unexplained, ?_⟩
  intro table before rest hsignal
  unfold Classifier.signal at hsignal ⊢
  rw [detect_eq_unsupportedFeature_iff_warns] at hsignal ⊢
  exact hsignal.append before rest

/-- A warning between two marks. -/
theorem detect_by_texts_between :
    let line := "a.c:11:9: warning: possible overflow of unsigned integer".toList
    Classifier.builtin.signal line = .unsupportedFeature ∧
      Classifier.builtin.signal ("clEasyRun() took 1 s ".toList ++ line ++ " TRACE".toList) =
        .unsupportedFeature := by
  intro line
  have warns : WarnsUnsupported line :=
    @WarnsUnsupported.integerFlow _ "a.c:11:9".toList "over".toList "unsigned".toList []
      (by decide +kernel) (by decide) (by decide)
  have hsignal : Classifier.builtin.signal line = .unsupportedFeature :=
    (detect_by_texts line _).1.2 warns
  obtain ⟨-, -, -, -, hmore⟩ := detect_by_texts line (Classifier.builtin.classify line)
  exact ⟨hsignal, hmore .builtin _ _ hsignal⟩

/-- The last two texts do not share their space. -/
example : detect ": warning: possible overflow of integer".toList ⟨.empty, false⟩ = .none := by
  decide +kernel

end Signal

end Overseer
