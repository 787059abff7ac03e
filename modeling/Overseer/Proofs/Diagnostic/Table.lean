import Overseer.Proofs.Diagnostic.Signal

/-! ## Tables compared

What a table reports depends on the set of its rows alone, not on their order or on how often they
come: a line reports a finding exactly if one of the rows does. So a table that has the rows of two
others reports what either of them reports, and it changes the signal of no line but of those that
the smaller table cannot explain. -/

namespace Overseer.Classifier

variable {c e x : Classifier} {line : Text} {f : Finding}

/-! ### What a line reports -/

theorem mem_kinds {k : Kind} :
    k ∈ c.kinds line ↔ ∃ row ∈ c.rows, row.1.search line = true ∧ k ∈ row.2 := by
  unfold kinds
  simp only [List.mem_flatMap, List.mem_filter, and_assoc]

theorem mem_findings :
    f ∈ c.findings line ↔
      ∃ l, Location.ofLine? line = some l ∧ ∃ k ∈ c.kinds line, l.finding? k = some f := by
  unfold findings
  cases Location.ofLine? line with
  | none => simp
  | some l => simp [List.mem_filterMap]

/-- A row makes a line with a location a finding if it occurs in the line. -/
def Reports (row : Pattern × List Kind) (line : Text) (f : Finding) : Prop :=
  ¬ traceMark <:+: line ∧ row.1.search line = true ∧
    ∃ l, Location.ofLine? line = some l ∧ ∃ k ∈ row.2, l.finding? k = some f

/-- A line reports what the rows of the table report. -/
theorem mem_findings_classify :
    f ∈ (c.classify line).findings ↔ ∃ row ∈ c.rows, Reports row line f := by
  unfold classify
  by_cases htrace : traceMark.occursIn line = true
  · rw [if_pos htrace]
    refine iff_of_false FindingSet.not_mem_empty ?_
    rintro ⟨row, _, untraced, _⟩
    exact untraced (Text.occursIn_iff.1 htrace)
  · rw [if_neg htrace]
    have untraced : ¬ traceMark <:+: line := fun h => htrace (Text.occursIn_iff.2 h)
    rw [FindingSet.mem_ofList, mem_findings]
    constructor
    · rintro ⟨l, hl, k, hk, hf⟩
      obtain ⟨row, hrow, occurs, hk⟩ := mem_kinds.1 hk
      exact ⟨row, hrow, untraced, occurs, l, hl, k, hk, hf⟩
    · rintro ⟨row, hrow, _, occurs, l, hl, k, hk, hf⟩
      exact ⟨l, hl, k, mem_kinds.2 ⟨row, hrow, occurs, hk⟩, hf⟩

/-- Whether a line is a trace does not depend on the table. -/
theorem isTrace_classify_eq : (e.classify line).isTrace = (c.classify line).isTrace := by
  rw [Bool.eq_iff_iff, isTrace_classify, isTrace_classify]

/-- Tables with the same rows say the same of every line. -/
theorem classify_eq (h : ∀ row, row ∈ e.rows ↔ row ∈ c.rows) : e.classify line = c.classify line := by
  refine Classification.ext (fun f => by simp only [mem_findings_classify, h]) ?_
  rw [isTrace_classify, isTrace_classify]

/-! ### Joined tables -/

/-- The table `e` has the rows of `c` and those of `x`, in any order and any number of times. -/
def Joins (e c x : Classifier) : Prop := ∀ row, row ∈ e.rows ↔ row ∈ c.rows ∨ row ∈ x.rows

theorem Joins.mem_findings (h : e.Joins c x) :
    f ∈ (e.classify line).findings ↔
      f ∈ (c.classify line).findings ∨ f ∈ (x.classify line).findings := by
  simp only [mem_findings_classify, h _, or_and_right, exists_or]

theorem joins_append (rows more : List (Pattern × List Kind)) :
    (⟨rows ++ more⟩ : Classifier).Joins ⟨rows⟩ ⟨more⟩ := fun _ => List.mem_append

/-- More rows change no signal but that of an error that could not be explained before. -/
theorem Joins.signal_eq (h : e.Joins c x) (explained : c.signal line ≠ .unclassifiedError) :
    e.signal line = c.signal line := by
  cases hs : c.signal line with
  | unsupportedFeature =>
    exact Signal.detect_eq_unsupportedFeature_iff.2 (Signal.detect_eq_unsupportedFeature_iff.1 hs)
  | completion => exact Signal.detect_eq_completion_iff.2 (Signal.detect_eq_completion_iff.1 hs)
  | unclassifiedError => exact absurd hs explained
  | none =>
    obtain ⟨supported, incomplete, reported⟩ := Signal.detect_eq_none_iff.1 hs
    refine Signal.detect_eq_none_iff.2 ⟨supported, incomplete, fun error => ?_⟩
    rw [isTrace_classify_eq (c := c)]
    refine (reported error).imp_left ?_
    rintro ⟨f, hf⟩
    exact ⟨f, h.mem_findings.2 (.inl hf)⟩

/-! ### Written tables -/

theorem ofRows_cons_eq_ok {row : Row} {rows : List Row} :
    ofRows (row :: rows) = .ok c ↔
      ∃ p c', Pattern.read row.pattern = .ok p ∧ ofRows rows = .ok c' ∧
        c = ⟨(p, row.kinds) :: c'.rows⟩ := by
  rw [ofRows]
  cases Pattern.read row.pattern with
  | error fault => simp
  | ok p =>
    cases ofRows rows with
    | error fault => simp [Except.map]
    | ok c' => simp [Except.map, eq_comm]

/-- The rows of a table are those that are written in it. -/
theorem mem_rows_of_ofRows {rows : List Row} (h : ofRows rows = .ok c)
    {r : Pattern × List Kind} :
    r ∈ c.rows ↔ ∃ row ∈ rows, Pattern.read row.pattern = .ok r.1 ∧ r.2 = row.kinds := by
  induction rows generalizing c with
  | nil =>
    cases h
    simp
  | cons row rows ih =>
    obtain ⟨p, c', hp, hrows, rfl⟩ := ofRows_cons_eq_ok.1 h
    rw [List.mem_cons, ih hrows]
    simp only [List.mem_cons, or_and_right, exists_or, exists_eq_left, hp, Except.ok.injEq,
      Prod.ext_iff, eq_comm (a := p)]

/-- A table that is written behind another one has its rows behind those of the other. -/
theorem ofRows_append {rows more : List Row} (h : ofRows rows = .ok c) (hmore : ofRows more = .ok x) :
    ofRows (rows ++ more) = .ok ⟨c.rows ++ x.rows⟩ := by
  induction rows generalizing c with
  | nil =>
    cases h
    exact hmore
  | cons row rows ih =>
    obtain ⟨p, c', hp, hrows, rfl⟩ := ofRows_cons_eq_ok.1 h
    exact ofRows_cons_eq_ok.2 ⟨p, _, hp, ih hrows, rfl⟩

end Overseer.Classifier
