import Overseer.Proofs.Diagnostic.FileName

/-! ## Lines that say one thing

A line that has a location has one severity and one message, whatever occurs in it. Messages of
different kinds begin differently, and the warnings about unsupported features begin like none of
them. So a line reports at most one finding by the built-in table, and one that reports a finding
leaves the run going unless it has the completion mark. -/

namespace Overseer

variable {s t t' before before' mid rest severity severity' tail tail' : Text} {l : Location}
  {f g : Finding} {k k' : Kind}

/-! ### The place of the severity -/

/-- What is no number stands behind the location, and only one field follows it. So two severities
    in a line that has a location are the same one. -/
theorem Location.severity_unique (hl : ofLine? s = some l)
    (h : s = before ++ (": ".toList ++ severity ++ ": ".toList ++ tail))
    (h' : s = before' ++ (": ".toList ++ severity' ++ ": ".toList ++ tail'))
    (word : ':' ∉ severity ∧ readNumber? (' ' :: severity) = none)
    (word' : ':' ∉ severity' ∧ readNumber? (' ' :: severity') = none) :
    severity = severity' ∧ tail = tail' := by
  have field : ':' ∉ ' ' :: severity := by simp [word.1]
  have field' : ':' ∉ ' ' :: severity' := by simp [word'.1]
  have hs : s = before ++ ':' :: (' ' :: severity ++ ':' :: (' ' :: tail)) := by simp [h]
  have hs' : s = before' ++ ':' :: (' ' :: severity' ++ ':' :: (' ' :: tail')) := by simp [h']
  have hlast : ':' ∉ ' ' :: tail :=
    ((ofLine?_eq_some_iff_of_field field word.2).1 (hs ▸ hl)).2
  have hlast' : ':' ∉ ' ' :: tail' :=
    ((ofLine?_eq_some_iff_of_field field' word'.2).1 (hs' ▸ hl)).2
  have hline : (before ++ ':' :: (' ' :: severity)) ++ ':' :: (' ' :: tail) =
      (before' ++ ':' :: (' ' :: severity')) ++ ':' :: (' ' :: tail') := by
    simpa using hs.symm.trans hs'
  obtain ⟨hfront, htail⟩ := Text.append_cons_inj_of_last hlast hlast' hline
  obtain ⟨-, hseverity⟩ := Text.append_cons_inj_of_last field field' hfront
  exact ⟨(List.cons.inj hseverity).2, (List.cons.inj htail).2⟩

/-! ### How messages begin -/

namespace Kind

/-- How the messages of a kind begin. -/
def openings : Kind → List Text
  | .invalidAccess => "dereferencing object of size ".toList :: fixedMessages .invalidAccess
  | k => k.fixedMessages

theorem IsMessage.exists_opening (h : k.IsMessage t) : ∃ o ∈ k.openings, o <+: t := by
  cases h with
  | fixed listed =>
    refine ⟨t, ?_, List.prefix_refl t⟩
    cases k with
    | invalidAccess => exact List.mem_cons_of_mem _ listed
    | freeError => exact listed
    | leak => exact listed
  | outOfBounds _ =>
    refine ⟨_, List.mem_cons_self, ?_⟩
    rw [List.append_assoc]
    exact List.prefix_append _ _

theorem openings_apart :
    ∀ k ∈ all, ∀ k' ∈ all, ∀ o ∈ k.openings, ∀ o' ∈ k'.openings, o <+: o' → k = k' := by
  decide +kernel

/-- A text begins with messages of one kind only. -/
theorem IsMessage.kind_unique (h : k.IsMessage t) (h' : k'.IsMessage t') (ht : t <+: s)
    (ht' : t' <+: s) : k = k' := by
  obtain ⟨o, ho, hot⟩ := h.exists_opening
  obtain ⟨o', ho', hot'⟩ := h'.exists_opening
  rcases List.prefix_or_prefix_of_prefix (hot.trans ht) (hot'.trans ht') with hle | hle
  · exact openings_apart k k.mem_all k' k'.mem_all o ho o' ho' hle
  · exact (openings_apart k' k'.mem_all k k.mem_all o' ho' o ho hle).symm

/-- Only leaks are reported as warnings. -/
theorem eq_leak_of_warning (h : "warning".toList ∈ k.severities) : k = .leak := by
  revert h
  cases k <;> decide

end Kind

/-! ### How warnings about unsupported features begin -/

namespace Signal

/-- What stands behind the severity in a warning about an unsupported feature. -/
def warningPatterns : List Pattern := [
  .literal "ignoring call of undefined function: ".toList,
  .literal "conditional jump depends on uninitialized value".toList,
  .behind "possible ".toList
    (.seq (.many (.oneOf .anyButNewline))
      (.behind "flow of ".toList
        (.seq (.many (.oneOf .anyButNewline)) (.literal " integer".toList))))]

theorem unsupportedPatterns_eq :
    unsupportedPatterns = warningPatterns.map (.behind ": warning: ".toList) := by
  decide +kernel

theorem warningPatterns_open :
    ∀ p ∈ warningPatterns, ∃ c ∈ ['i', 'c', 'p'], p.opensWith c = true := by
  have hopen : (warningPatterns.all fun p => ['i', 'c', 'p'].any p.opensWith) = true := by decide
  intro p hp
  exact List.any_eq_true.1 (List.all_eq_true.1 hopen p hp)

/-- A line about an unsupported feature has the severity of warnings, and behind it a text that is no
    message of a leak. -/
theorem exists_warning_of_occurs {p : Pattern} (hp : p ∈ unsupportedPatterns) (h : p.Occurs s) :
    ∃ before c tail, s = before ++ (": ".toList ++ "warning".toList ++ ": ".toList ++ c :: tail) ∧
      c ≠ 'm' := by
  rw [unsupportedPatterns_eq] at hp
  obtain ⟨q, hq, rfl⟩ := List.mem_map.1 hp
  obtain ⟨before, mid, rest, rfl, hmid⟩ := h
  obtain ⟨t, rfl, ht⟩ := Pattern.matches_behind.1 hmid
  obtain ⟨c, hc, opens⟩ := warningPatterns_open q hq
  obtain ⟨tail, rfl⟩ := ht.eq_cons opens
  refine ⟨before, c, tail ++ rest, by simp, ?_⟩
  rintro rfl
  revert hc
  decide

end Signal

/-! ### What a line with a location says -/

namespace Classifier

/-- A kind that the built-in table finds in a line has a message there, behind its severity. -/
theorem exists_message_of_mem_kinds (h : k ∈ builtin.kinds s) :
    ∃ before severity message rest,
      s = before ++ (": ".toList ++ severity ++ ": ".toList ++ (message ++ rest)) ∧
        severity ∈ k.severities ∧ k.IsMessage message := by
  obtain ⟨row, hrow, hsearch, hk⟩ := mem_kinds.1 h
  obtain ⟨before, mid, rest, rfl, hmid⟩ := Pattern.search_iff.1 hsearch
  obtain ⟨severity, message, rfl, hsev, hmsg⟩ := exists_matches_iff.1 ⟨row, hrow, hk, hmid⟩
  exact ⟨before, severity, message, rest, by simp, hsev, hmsg⟩

/-- In a line that has a location one kind is found at most. -/
theorem kind_unique (hl : Location.ofLine? s = some l) (hk : k ∈ builtin.kinds s)
    (hk' : k' ∈ builtin.kinds s) : k = k' := by
  obtain ⟨_, severity, message, rest, hs, hsev, hmsg⟩ := exists_message_of_mem_kinds hk
  obtain ⟨_, severity', message', rest', hs', hsev', hmsg'⟩ := exists_message_of_mem_kinds hk'
  obtain ⟨-, htail⟩ := Location.severity_unique hl hs hs'
    (Kind.colon_notMem_of_mem_severities hsev) (Kind.colon_notMem_of_mem_severities hsev')
  refine hmsg.kind_unique hmsg' (List.prefix_append message rest) ?_
  rw [htail]
  exact List.prefix_append message' rest'

/-- In a line that has a location, where a kind is found no unsupported feature is. -/
theorem supported_of_mem_kinds (hl : Location.ofLine? s = some l) (hk : k ∈ builtin.kinds s) :
    ¬ ∃ p ∈ Signal.unsupportedPatterns, p.Occurs s := by
  rintro ⟨p, hp, occurs⟩
  obtain ⟨_, c, tail, hwarning, hc⟩ := Signal.exists_warning_of_occurs hp occurs
  obtain ⟨_, severity, message, rest, hs, hsev, hmsg⟩ := exists_message_of_mem_kinds hk
  have word : "warning".toList ∈ Kind.leak.severities := by decide
  obtain ⟨rfl, htail⟩ := Location.severity_unique hl hs hwarning
    (Kind.colon_notMem_of_mem_severities hsev) (Kind.colon_notMem_of_mem_severities word)
  obtain rfl := Kind.eq_leak_of_warning hsev
  cases hmsg with
  | fixed listed =>
    obtain rfl := List.mem_singleton.1 listed
    exact hc (List.cons.inj htail).1.symm

theorem exists_location_of_mem_findings (h : f ∈ (builtin.classify s).findings) :
    ∃ l k, Location.ofLine? s = some l ∧ k ∈ builtin.kinds s ∧ l.finding? k = some f := by
  obtain ⟨row, hrow, -, hsearch, l, hl, k, hk, hf⟩ := mem_findings_classify.1 h
  exact ⟨l, k, hl, mem_kinds.2 ⟨row, hrow, hsearch, hk⟩, hf⟩

/-- A line reports at most one finding. -/
theorem finding_unique (hf : f ∈ (builtin.classify s).findings)
    (hg : g ∈ (builtin.classify s).findings) : f = g := by
  obtain ⟨l, k, hl, hk, hlf⟩ := exists_location_of_mem_findings hf
  obtain ⟨l', k', hl', hk', hlg⟩ := exists_location_of_mem_findings hg
  cases hl.symm.trans hl'
  obtain rfl := kind_unique hl hk hk'
  exact Option.some.inj (hlf.symm.trans hlg)

/-- A line that reports a finding ends the run well or not at all. -/
theorem signal_of_mem_findings (h : f ∈ (builtin.classify s).findings) :
    builtin.signal s = if Signal.completionMark.occursIn s then .completion else .none := by
  obtain ⟨l, k, hl, hk, -⟩ := exists_location_of_mem_findings h
  have supported := supported_of_mem_kinds hl hk
  have hmark : (∃ p ∈ Signal.completionPatterns, p.Occurs s) ↔
      Signal.completionMark.occursIn s = true := by
    rw [← Signal.anyOccurs_iff, DiagnosticText.anyOccurs_completion_iff, Text.occursIn_iff]
  split
  · next hcomplete =>
    exact Signal.detect_eq_completion_iff.2 ⟨supported, hmark.2 hcomplete⟩
  · next hincomplete =>
    exact Signal.detect_eq_none_iff.2
      ⟨supported, fun h => hincomplete (hmark.1 h), fun _ => .inl ⟨f, h⟩⟩

/-- The built-in table is unambiguous. Where a location can be read one kind is found at most, so a
    line reports at most one finding; and a line that reports one neither makes the result unknown
    nor fails the run: it decides something only if it has the completion mark. -/
theorem classify_builtin_unambiguous (s : Text) :
    (∀ l, Location.ofLine? s = some l →
      ∀ k ∈ builtin.kinds s, ∀ k' ∈ builtin.kinds s, k = k') ∧
    (builtin.classify s).findings.size ≤ 1 ∧
    ∀ f ∈ (builtin.classify s).findings,
      builtin.signal s ≠ .unsupportedFeature ∧ builtin.signal s ≠ .unclassifiedError ∧
        ((builtin.signal s).isTerminal = true ↔ builtin.signal s = .completion) ∧
        (builtin.signal s = .completion ↔ Signal.completionMark <:+: s) := by
  refine ⟨fun l hl k hk k' hk' => kind_unique hl hk hk',
    FindingSet.size_le_one fun f hf g hg => finding_unique hf hg, fun f hf => ?_⟩
  rw [signal_of_mem_findings hf, ← Text.occursIn_iff]
  cases Signal.completionMark.occursIn s <;> simp [Signal.isTerminal]

/-- A line that reports a finding and ends the run well. -/
theorem classify_builtin_unambiguous_last :
    let s := "a.c:3: error: double free clEasyRun() took 1 s".toList
    let f : Finding := ⟨⟨3, by decide, by decide⟩, none, .freeError⟩
    f ∈ (builtin.classify s).findings ∧ (builtin.classify s).findings.size ≤ 1 ∧
      builtin.signal s ≠ .unsupportedFeature ∧ builtin.signal s ≠ .unclassifiedError ∧
      ((builtin.signal s).isTerminal = true ↔ builtin.signal s = .completion) ∧
      (builtin.signal s = .completion ↔ Signal.completionMark <:+: s) := by
  intro s f
  have hf : f ∈ (builtin.classify s).findings := by
    have untraced : ¬ traceMark <:+: s := by
      rw [← Text.occursIn_iff]
      decide
    have place : Location.IsWritten ("a.c".toList ++ ':' :: "3".toList) ⟨3, none⟩ :=
      .row (by decide) ⟨by decide, Location.readNumber?_eq_some_iff.1 (by decide)⟩
    have message : f.kind.IsMessage "double free".toList := .fixed (by decide)
    exact mem_findings_builtin.2 ⟨untraced, _, "error".toList,
      "double free clEasyRun() took 1 s".toList, rfl, place, by decide, by decide, _, message,
      List.prefix_append _ " clEasyRun() took 1 s".toList⟩
  obtain ⟨-, hsize, hsignal⟩ := classify_builtin_unambiguous s
  exact ⟨hf, hsize, hsignal f hf⟩

end Classifier

end Overseer
