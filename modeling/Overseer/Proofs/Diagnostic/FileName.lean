import Overseer.Proofs.Diagnostic.Grammar

/-! ## The name of the analysed file

Every diagnostic begins with the name of a file, which is not the analyser's to choose. Patterns and
marks that begin with a colon are not found in a name, and a diagnostic stays one under any name. So
a name matters only if it has one of the two marks that may stand anywhere in a line. -/

namespace Overseer

variable {s t name name' rest : Text} {l : Location} {f : Finding}

/-! ### Lines that go on alike behind a name -/

/-- A location has the same numbers under any name. -/
theorem Location.IsWritten.rename (h : IsWritten s l) (hname' : ':' ∉ name') :
    ∃ name behind, s = name ++ ':' :: behind ∧ ':' ∉ name ∧
      IsWritten (name' ++ ':' :: behind) l := by
  cases h with
  | @row file row r hfile number => exact ⟨file, row, rfl, hfile, .row hname' number⟩
  | @column file row column r c hfile number place =>
    refine ⟨file, row ++ ':' :: column, by simp, hfile, ?_⟩
    simpa using IsWritten.column hname' number place

namespace Classifier

theorem Diagnoses.rename (h : Diagnoses (name ++ ':' :: rest) f) (hname : ':' ∉ name)
    (hname' : ':' ∉ name') : Diagnoses (name' ++ ':' :: rest) f := by
  obtain ⟨place, severity, message, hline, hplace, hmessage⟩ := h
  obtain ⟨file, behind, rfl, hfile, hplace'⟩ := hplace.rename hname'
  simp only [List.append_assoc, List.cons_append] at hline
  obtain ⟨-, rfl⟩ := Text.append_cons_inj hname hfile hline
  exact ⟨_, severity, message, by simp, hplace', hmessage⟩

/-- Lines that go on alike are diagnostics of the same findings. -/
theorem diagnoses_name_iff (hname : ':' ∉ name) (hname' : ':' ∉ name') :
    Diagnoses (name ++ ':' :: rest) f ↔ Diagnoses (name' ++ ':' :: rest) f :=
  ⟨fun h => h.rename hname hname', fun h => h.rename hname' hname⟩

end Classifier

/-! ### Written diagnostics -/

/-- Stands in the line that ends a run well. -/
def Signal.completionMark : Text := "clEasyRun() took".toList

/-- A diagnostic as it is written behind the name of a file. -/
structure DiagnosticText where
  row : Text
  column : Option Text
  severity : Text
  message : Text

namespace DiagnosticText

variable {d : DiagnosticText} {c : Char}

/-- The coordinates, with colons between them. -/
def place (d : DiagnosticText) : Text :=
  match d.column with
  | none => d.row
  | some column => d.row ++ ':' :: column

/-- The line for a file. -/
def line (d : DiagnosticText) (name : Text) : Text :=
  name ++ ':' :: (d.place ++ ": ".toList ++ d.severity ++ ": ".toList ++ d.message)

/-- The coordinates are digits, the severity is one of the two, and the message has no mark. -/
structure Plain (d : DiagnosticText) : Prop where
  row : Numeral.IsDigits d.row
  column : ∀ column, d.column = some column → Numeral.IsDigits column
  severity : d.severity = "error".toList ∨ d.severity = "warning".toList
  untraced : ¬ Classifier.traceMark <:+: d.message
  unfinished : ¬ Signal.completionMark <:+: d.message

/-- No mark is made of digits. -/
theorem not_infix_of_isDigits {ds : Text} (h : Numeral.IsDigits ds) (hc : c.isDigit = false) :
    ¬ c :: t <:+: ds := by
  intro hpart
  have hdigit := h.2 c (hpart.subset List.mem_cons_self)
  rw [hc] at hdigit
  cases hdigit

theorem infix_blank_cons_iff (hc : c ≠ ' ') : c :: t <:+: ' ' :: s ↔ c :: t <:+: s := by
  simp [List.infix_cons_iff, List.cons_prefix_cons, hc]

theorem Plain.not_infix_place (h : d.Plain) (hcolon : ':' ∉ c :: t) (hc : c.isDigit = false) :
    ¬ c :: t <:+: d.place := by
  unfold place
  split
  · exact not_infix_of_isDigits h.row hc
  · next column hcolumn =>
    rw [Text.infix_append_cons_iff hcolon, not_or]
    exact ⟨not_infix_of_isDigits h.row hc, not_infix_of_isDigits (h.column column hcolumn) hc⟩

/-- A mark stands in the line only if it stands in the name. -/
theorem Plain.infix_line_iff (h : d.Plain) (hcolon : ':' ∉ c :: t) (hc : c.isDigit = false)
    (hblank : c ≠ ' ') (hsev : ¬ c :: t <:+: d.severity) (hmsg : ¬ c :: t <:+: d.message) :
    c :: t <:+: d.line name ↔ c :: t <:+: name := by
  have hline : d.line name =
      name ++ ':' :: (d.place ++ ':' :: (' ' :: d.severity ++ ':' :: (' ' :: d.message))) := by
    simp [line]
  rw [hline, Text.infix_append_cons_iff hcolon, Text.infix_append_cons_iff hcolon,
    Text.infix_append_cons_iff hcolon, infix_blank_cons_iff hblank, infix_blank_cons_iff hblank]
  simp [h.not_infix_place hcolon hc, hsev, hmsg]

theorem Plain.traceMark_infix_line_iff (h : d.Plain) :
    Classifier.traceMark <:+: d.line name ↔ Classifier.traceMark <:+: name := by
  refine h.infix_line_iff (c := 'T') (t := "RACE".toList) (by decide) rfl (by decide) ?_ h.untraced
  rw [← Text.occursIn_iff]
  rcases h.severity with hsev | hsev <;> rw [hsev] <;> decide

theorem Plain.completionMark_infix_line_iff (h : d.Plain) :
    Signal.completionMark <:+: d.line name ↔ Signal.completionMark <:+: name := by
  refine h.infix_line_iff (c := 'c') (t := "lEasyRun() took".toList) (by decide) rfl (by decide) ?_
    h.unfinished
  rw [← Text.occursIn_iff]
  rcases h.severity with hsev | hsev <;> rw [hsev] <;> decide

/-! ### Patterns and marks in a line -/

theorem completionPatterns_eq : Signal.completionPatterns = [.literal Signal.completionMark] := by
  decide +kernel

theorem unsupportedPatterns_open :
    ∀ p ∈ Signal.unsupportedPatterns, p.opensWith ':' = true ∧ p.anchorFree = true := by
  decide +kernel

/-- Whether a feature is unsupported is not a matter of the name. -/
theorem anyOccurs_unsupported_line (hname : ':' ∉ name) (hname' : ':' ∉ name') :
    Signal.anyOccurs Signal.unsupportedPatterns (d.line name) =
      Signal.anyOccurs Signal.unsupportedPatterns (d.line name') := by
  rw [Bool.eq_iff_iff, Signal.anyOccurs_iff, Signal.anyOccurs_iff]
  refine exists_congr fun p => and_congr_right fun hp => ?_
  obtain ⟨opens, free⟩ := unsupportedPatterns_open p hp
  unfold line
  rw [Pattern.occurs_append_cons_iff opens free hname,
    Pattern.occurs_append_cons_iff opens free hname']

theorem anyOccurs_completion_iff :
    Signal.anyOccurs Signal.completionPatterns s = true ↔ Signal.completionMark <:+: s := by
  rw [Signal.anyOccurs_iff, completionPatterns_eq]
  simp [Pattern.occurs_iff_of_texts (Pattern.texts?_literal Signal.completionMark)]

theorem occursIn_errorMark_line (hname : ':' ∉ name) (hname' : ':' ∉ name') :
    Signal.errorMark.occursIn (d.line name) = Signal.errorMark.occursIn (d.line name') := by
  have hmark : Signal.errorMark = ':' :: " error:".toList := by decide
  rw [Bool.eq_iff_iff, Text.occursIn_iff, Text.occursIn_iff, hmark]
  unfold line
  rw [Text.cons_infix_append_cons_iff hname, Text.cons_infix_append_cons_iff hname']

/-! ### What the name decides -/

/-- Names that both have the trace mark, or both have not, make no difference to the findings. -/
theorem Plain.classify_line_eq (h : d.Plain) (hname : ':' ∉ name) (hname' : ':' ∉ name')
    (htrace : Classifier.traceMark <:+: name ↔ Classifier.traceMark <:+: name') :
    Classifier.builtin.classify (d.line name) = Classifier.builtin.classify (d.line name') := by
  have hlines : Classifier.traceMark <:+: d.line name ↔ Classifier.traceMark <:+: d.line name' := by
    rw [h.traceMark_infix_line_iff, h.traceMark_infix_line_iff, htrace]
  refine Classification.ext (fun f => ?_) ?_
  · rw [Classifier.mem_findings_builtin, Classifier.mem_findings_builtin, hlines]
    exact and_congr_right fun _ => Classifier.diagnoses_name_iff hname hname'
  · rw [Classifier.isTrace_classify, Classifier.isTrace_classify, hlines]

/-- If neither name has the completion mark, the signal is decided by the classification. -/
theorem Plain.detect_line_eq (h : d.Plain) (hname : ':' ∉ name) (hname' : ':' ∉ name')
    (unfinished : ¬ Signal.completionMark <:+: name)
    (unfinished' : ¬ Signal.completionMark <:+: name')
    {c : Classification} : Signal.detect (d.line name) c = Signal.detect (d.line name') c := by
  have hcompletion : Signal.anyOccurs Signal.completionPatterns (d.line name) =
      Signal.anyOccurs Signal.completionPatterns (d.line name') := by
    rw [Bool.eq_iff_iff, anyOccurs_completion_iff, anyOccurs_completion_iff,
      h.completionMark_infix_line_iff, h.completionMark_infix_line_iff]
    exact iff_of_false unfinished unfinished'
  unfold Signal.detect
  rw [anyOccurs_unsupported_line hname hname', hcompletion, occursIn_errorMark_line hname hname']

/-- Two files with the same diagnostic are judged alike exactly if both names have the trace mark or
    both have not. Then the signals are the same too, unless a name has the completion mark. -/
theorem verdict_line_eq_iff (h : d.Plain) (hname : ':' ∉ name) (hname' : ':' ∉ name') :
    (Classifier.builtin.classify (d.line name) = Classifier.builtin.classify (d.line name') ↔
      (Classifier.traceMark <:+: name ↔ Classifier.traceMark <:+: name')) ∧
    ((Classifier.traceMark <:+: name ↔ Classifier.traceMark <:+: name') →
      ¬ Signal.completionMark <:+: name → ¬ Signal.completionMark <:+: name' →
      Classifier.builtin.signal (d.line name) = Classifier.builtin.signal (d.line name')) := by
  refine ⟨⟨fun heq => ?_, h.classify_line_eq hname hname'⟩, fun htrace unfinished unfinished' => ?_⟩
  · rw [← h.traceMark_infix_line_iff, ← @Plain.traceMark_infix_line_iff name' d h,
      ← Classifier.isTrace_classify (c := .builtin), heq, Classifier.isTrace_classify]
  · unfold Classifier.signal
    rw [h.classify_line_eq hname hname' htrace]
    exact h.detect_line_eq hname hname' unfinished unfinished'

/-- A block that is freed twice. -/
def doubleFree : DiagnosticText :=
  ⟨"12".toList, some "3".toList, "error".toList, "double free".toList⟩

theorem plain_doubleFree : doubleFree.Plain := by
  refine ⟨⟨by decide, List.all_eq_true.1 (by decide)⟩, ?_, .inl rfl, ?_, ?_⟩
  · rintro column hcolumn
    obtain rfl := Option.some.inj hcolumn
    exact ⟨by decide, List.all_eq_true.1 (by decide)⟩
  · rw [← Text.occursIn_iff]
    decide
  · rw [← Text.occursIn_iff]
    decide

theorem verdict_line_eq_iff_doubleFree :
    doubleFree.Plain ∧ ':' ∉ "a.c".toList ∧ ':' ∉ "b.c".toList ∧
      Classifier.builtin.classify (doubleFree.line "a.c".toList) =
        Classifier.builtin.classify (doubleFree.line "b.c".toList) := by
  have hname : ':' ∉ "a.c".toList := by decide
  have hname' : ':' ∉ "b.c".toList := by decide
  refine ⟨plain_doubleFree, hname, hname', ?_⟩
  refine (verdict_line_eq_iff plain_doubleFree hname hname').1.2 ?_
  rw [← Text.occursIn_iff, ← Text.occursIn_iff]
  decide

/-- A name with the trace mark in it makes a diagnostic vanish, so names do matter. -/
theorem not_verdict_line_eq :
    ¬ ∀ (d : DiagnosticText) (name name' : Text), d.Plain → ':' ∉ name → '\n' ∉ name →
      ':' ∉ name' → '\n' ∉ name' →
      Classifier.builtin.classify (d.line name) = Classifier.builtin.classify (d.line name') ∧
      (¬ Signal.completionMark <:+: name → ¬ Signal.completionMark <:+: name' →
        Classifier.builtin.signal (d.line name) = Classifier.builtin.signal (d.line name')) := by
  intro h
  have heq := (h doubleFree "TRACE.c".toList "a.c".toList plain_doubleFree (by decide) (by decide)
    (by decide) (by decide)).1
  have htrace : Classifier.traceMark <:+: doubleFree.line "TRACE.c".toList ↔
      Classifier.traceMark <:+: doubleFree.line "a.c".toList := by
    rw [← Classifier.isTrace_classify (c := .builtin), heq, Classifier.isTrace_classify]
  rw [← Text.occursIn_iff, ← Text.occursIn_iff] at htrace
  revert htrace
  decide

end DiagnosticText

end Overseer
