import Overseer.Proofs.Diagnostic.Table
import Overseer.Proofs.Pattern.Language
import Overseer.Proofs.Report.LogGrammar
import Overseer.Proofs.Text.Cutting

/-! ## The language of diagnostics

Which lines report what by the built-in table, told without searching for a pattern: a location, a
severity, and one of the messages of the kind. The patterns are searched everywhere in a line, while
the location is read from its first fields; but as nothing in a location is a severity, a pattern
can only occur right behind it. -/

namespace Overseer

variable {s t before mid rest mark : Text} {l : Location} {f : Finding} {k : Kind}

/-! ### Locations -/

namespace Location

/-- The field is a numeral below 2³², with or without blanks around it. -/
def IsNumber (field : Text) (n : Nat) : Prop := ':' ∉ field ∧ Numeral.Denotes field.trim n

/-- The text is a location: a name, a row, and perhaps a column. -/
inductive IsWritten : Text → Location → Prop
  | row {file row : Text} {r : Nat} (name : ':' ∉ file) (number : IsNumber row r) :
      IsWritten (file ++ ':' :: row) ⟨r, none⟩
  | column {file row column : Text} {r c : Nat} (name : ':' ∉ file) (number : IsNumber row r)
      (place : IsNumber column c) : IsWritten (file ++ ':' :: row ++ ':' :: column) ⟨r, some c⟩

theorem readNumber?_eq_some_iff {field : Text} {n : Nat} :
    readNumber? field = some n ↔ Numeral.Denotes field.trim n :=
  Numeral.read32?_eq_some_iff_denotes

/-- The fields of a location, cut at its colons. -/
inductive Reads : List Text → Location → Prop
  | row {file row : Text} {r : Nat} (number : readNumber? row = some r) :
      Reads [file, row] ⟨r, none⟩
  | column {file row column : Text} {r c : Nat} (number : readNumber? row = some r)
      (place : readNumber? column = some c) : Reads [file, row, column] ⟨r, some c⟩

theorem isWritten_iff_reads : IsWritten s l ↔ Reads (s.splitOn ':') l := by
  constructor
  · intro h
    cases h with
    | row name number =>
      rw [List.splitOn_append_cons_self_of_not_mem name, List.splitOn_eq_singleton number.1]
      exact .row (readNumber?_eq_some_iff.2 number.2)
    | column name number place =>
      rw [List.append_assoc, List.cons_append, List.splitOn_append_cons_self_of_not_mem name,
        List.splitOn_append_cons_self_of_not_mem number.1, List.splitOn_eq_singleton place.1]
      exact .column (readNumber?_eq_some_iff.2 number.2) (readNumber?_eq_some_iff.2 place.2)
  · intro h
    generalize hfields : s.splitOn ':' = fields at h
    cases h with
    | row number =>
      obtain ⟨_, hfile, rfl, hrow⟩ := Text.splitOn_eq_cons_cons_iff.1 hfields
      obtain ⟨hcolon, rfl⟩ := Text.splitOn_eq_singleton_iff.1 hrow
      exact .row hfile ⟨hcolon, readNumber?_eq_some_iff.1 number⟩
    | column number place =>
      obtain ⟨_, hfile, rfl, hrest⟩ := Text.splitOn_eq_cons_cons_iff.1 hfields
      obtain ⟨_, hrow, rfl, hcolumn⟩ := Text.splitOn_eq_cons_cons_iff.1 hrest
      obtain ⟨hcolon, rfl⟩ := Text.splitOn_eq_singleton_iff.1 hcolumn
      simpa using IsWritten.column hfile ⟨hrow, readNumber?_eq_some_iff.1 number⟩
        ⟨hcolon, readNumber?_eq_some_iff.1 place⟩

/-- The location of a line are all its fields but two. -/
theorem ofFields?_eq_some_iff {fields : List Text} :
    ofFields? fields = some l ↔
      ∃ place severity message, fields = place ++ [severity, message] ∧ Reads place l := by
  constructor
  · intro h
    unfold ofFields? at h
    split at h
    · obtain ⟨r, hr, rfl⟩ := Option.map_eq_some_iff.1 h
      exact ⟨_, _, _, rfl, .row hr⟩
    · split at h
      · next hr hc =>
        cases h
        exact ⟨_, _, _, rfl, .column hr hc⟩
      · cases h
    · cases h
  · rintro ⟨place, severity, message, rfl, h⟩
    cases h with
    | row number => simp [ofFields?, number]
    | column number place => simp [ofFields?, number, place]

/-- Every field of a location but the first is a number. -/
theorem Reads.isSome_of_mem {fields : List Text} {field : Text} (h : Reads fields l)
    (hfield : field ∈ fields.tail) : (readNumber? field).isSome := by
  cases h with
  | row number => simp_all
  | column number place =>
    rcases List.mem_cons.1 hfield with rfl | hfield
    · exact Option.isSome_of_eq_some number
    · obtain rfl := List.mem_singleton.1 hfield
      exact Option.isSome_of_eq_some place

/-- If a line has a field that is no number, behind another one, then its location is what stands
    before that field, and only one field follows. -/
theorem ofLine?_eq_some_iff_of_field (hmark : ':' ∉ mark) (unread : readNumber? mark = none) :
    ofLine? (before ++ ':' :: (mark ++ ':' :: rest)) = some l ↔
      IsWritten before l ∧ ':' ∉ rest := by
  unfold ofLine?
  rw [List.splitOn_append_cons_self, List.splitOn_append_cons_self_of_not_mem hmark,
    ofFields?_eq_some_iff, isWritten_iff_reads]
  constructor
  · rintro ⟨place, severity, message, hfields, hplace⟩
    suffices h : before.splitOn ':' = place ∧ rest.splitOn ':' = [message] by
      obtain ⟨rfl, hrest⟩ := h
      exact ⟨hplace, (Text.splitOn_eq_singleton_iff.1 hrest).1⟩
    rcases List.append_eq_append_iff.1 hfields with ⟨more, hmore, htail⟩ | ⟨more, hmore, htail⟩
    · cases more with
      | nil => simp_all
      | cons field more =>
        -- The field would be a part of the location.
        obtain ⟨rfl, -⟩ := List.cons.inj htail
        have hmem : mark ∈ place.tail := by
          rw [hmore, List.tail_append_of_ne_nil (List.splitOn_ne_nil ':' before)]
          exact List.mem_append_right _ List.mem_cons_self
        have hread := hplace.isSome_of_mem hmem
        rw [unread] at hread
        cases hread
    · -- The location would leave too few fields for the message.
      have hlen := congrArg List.length htail
      have hrest := List.length_pos_iff.2 (List.splitOn_ne_nil ':' rest)
      simp only [List.length_cons, List.length_nil, List.length_append] at hlen
      have hnil : more = [] := List.length_eq_zero_iff.1 (by omega)
      simp_all
  · rintro ⟨hplace, hrest⟩
    exact ⟨_, mark, rest, by rw [List.splitOn_eq_singleton hrest], hplace⟩

theorem finding?_eq_some_iff :
    l.finding? k = some f ↔ l = ⟨f.row.val, f.column.map (·.val)⟩ ∧ k = f.kind := by
  obtain ⟨row, column⟩ := l
  rw [finding?, Finding.ofNumbers?_eq_some_iff, mk.injEq, and_assoc]

end Location

/-! ### Messages -/

namespace Kind

/-- How a fault of a kind may be reported: a leak also as a warning. -/
def severities : Kind → List Text
  | .invalidAccess | .freeError => ["error".toList]
  | .leak => ["error".toList, "warning".toList]

/-- The messages of a kind that are always the same. -/
def fixedMessages : Kind → List Text
  | .invalidAccess => [
    "dereference of already deleted heap object".toList,
    "dereference of NULL value".toList,
    "invalid dereference".toList,
    "dereference of non-existing non-heap object".toList,
    "not enough space to store value of a pointer".toList,
    "invalid L-value".toList]
  | .freeError => [
    "free() called with offset".toList,
    "realloc() called with offset".toList,
    "invalid free()".toList,
    "double free".toList,
    "attempt to free a non-existing non-heap object".toList,
    "attempt to free a non-heap object".toList,
    "free() called on non-pointer value".toList,
    "realloc() called on non-pointer value".toList]
  | .leak => ["memory leak detected".toList]

/-- All messages of a kind. One of them has a number of bytes in it, which may be missing. -/
inductive IsMessage : Kind → Text → Prop
  | fixed {k : Kind} {t : Text} (listed : t ∈ k.fixedMessages) : IsMessage k t
  | outOfBounds {size : Text} (digits : ∀ c ∈ size, c.isDigit = true) :
      IsMessage .invalidAccess
        ("dereferencing object of size ".toList ++ size ++ "B out of bounds".toList)

theorem colon_notMem_of_mem_severities {severity : Text} (h : severity ∈ k.severities) :
    ':' ∉ severity ∧ Location.readNumber? (' ' :: severity) = none := by
  revert severity
  cases k <;> decide

theorem IsMessage.colon_notMem (h : k.IsMessage t) : ':' ∉ t := by
  cases h with
  | fixed listed =>
    revert t
    cases k <;> decide
  | outOfBounds digits =>
    simp only [List.mem_append, not_or]
    exact ⟨⟨by decide, fun h => nomatch digits ':' h⟩, by decide⟩

end Kind

/-- A severity and a message of a kind, as they stand behind a location. -/
def Marks (k : Kind) (s : Text) : Prop :=
  ∃ severity message, s = ": ".toList ++ severity ++ ": ".toList ++ message ∧
    severity ∈ k.severities ∧ k.IsMessage message

namespace Classifier

/-! ### The patterns of the built-in table -/

/-- The pattern of the message that has a number in it. -/
def outOfBoundsPattern : Pattern :=
  .behind ": error: dereferencing object of size ".toList
    (.seq (.many (.oneOf (.range '0' '9'))) (.literal "B out of bounds".toList))

/-- The patterns of fixed texts for a kind. -/
def fixedTexts (k : Kind) : List Text :=
  (builtin.rows.filter (k ∈ ·.2)).flatMap fun row => row.1.texts?.getD []

/-- The built-in table lists the severities and messages, once read. -/
theorem spelled_builtin :
    (∀ k ∈ Kind.all, fixedTexts k = k.severities.flatMap fun severity =>
      k.fixedMessages.map fun message => ": ".toList ++ severity ++ ": ".toList ++ message) ∧
    builtin.rows.filter (·.1.texts?.isNone) = [(outOfBoundsPattern, [.invalidAccess])] := by
  decide +kernel

theorem mem_fixedTexts :
    t ∈ fixedTexts k ↔
      ∃ row ∈ builtin.rows, k ∈ row.2 ∧ ∃ ts, row.1.texts? = some ts ∧ t ∈ ts := by
  unfold fixedTexts
  simp only [List.mem_flatMap, List.mem_filter, decide_eq_true_eq, and_assoc]
  refine exists_congr fun row => and_congr_right fun _ => and_congr_right fun _ => ?_
  cases row.1.texts? <;> simp

theorem mem_fixedTexts_iff :
    t ∈ fixedTexts k ↔ ∃ severity ∈ k.severities, ∃ message ∈ k.fixedMessages,
      t = ": ".toList ++ severity ++ ": ".toList ++ message := by
  rw [spelled_builtin.1 k k.mem_all]
  simp only [List.mem_flatMap, List.mem_map, eq_comm]

theorem mem_rows_without_texts {row : Pattern × List Kind} :
    row ∈ builtin.rows ∧ row.1.texts? = none ↔ row = (outOfBoundsPattern, [.invalidAccess]) := by
  have h := spelled_builtin.2
  rw [← List.mem_singleton (a := row), ← h, List.mem_filter, Option.isNone_iff_eq_none]

theorem matches_outOfBoundsPattern :
    outOfBoundsPattern.Matches before mid rest ↔
      ∃ size, (∀ c ∈ size, c.isDigit = true) ∧
        mid = ": error: dereferencing object of size ".toList ++
          (size ++ "B out of bounds".toList) := by
  have hdigit (c : Char) : (CharSet.range '0' '9').contains c = c.isDigit := rfl
  simp only [outOfBoundsPattern, Pattern.matches_behind, Pattern.matches_seq,
    Pattern.matches_many_oneOf, Pattern.matches_iff_mem_texts (Pattern.texts?_literal _), hdigit,
    List.mem_singleton]
  constructor
  · rintro ⟨_, rfl, size, _, rfl, hsize, rfl⟩
    exact ⟨size, hsize, rfl⟩
  · rintro ⟨size, hsize, rfl⟩
    exact ⟨_, rfl, size, _, rfl, hsize, rfl⟩

/-- What the patterns for a kind match. -/
theorem exists_matches_iff :
    (∃ row ∈ builtin.rows, k ∈ row.2 ∧ row.1.Matches before mid rest) ↔ Marks k mid := by
  constructor
  · rintro ⟨row, hrow, hk, hmid⟩
    cases htexts : row.1.texts? with
    | some ts =>
      have hmem := (Pattern.matches_iff_mem_texts htexts).1 hmid
      obtain ⟨severity, hsev, message, hmsg, rfl⟩ :=
        mem_fixedTexts_iff.1 (mem_fixedTexts.2 ⟨row, hrow, hk, ts, htexts, hmem⟩)
      exact ⟨severity, message, rfl, hsev, .fixed hmsg⟩
    | none =>
      obtain rfl := mem_rows_without_texts.1 ⟨hrow, htexts⟩
      obtain rfl := List.mem_singleton.1 hk
      obtain ⟨size, hsize, rfl⟩ := matches_outOfBoundsPattern.1 hmid
      exact ⟨"error".toList, _, rfl, List.mem_cons_self, .outOfBounds hsize⟩
  · rintro ⟨severity, message, rfl, hsev, hmsg⟩
    cases hmsg with
    | fixed listed =>
      obtain ⟨row, hrow, hk, ts, htexts, hmem⟩ :=
        mem_fixedTexts.1 (mem_fixedTexts_iff.2 ⟨severity, hsev, message, listed, rfl⟩)
      exact ⟨row, hrow, hk, (Pattern.matches_iff_mem_texts htexts).2 hmem⟩
    | @outOfBounds size digits =>
      obtain rfl := List.mem_singleton.1 hsev
      obtain ⟨hrow, -⟩ := mem_rows_without_texts.2 rfl
      exact ⟨_, hrow, List.mem_cons_self, matches_outOfBoundsPattern.2 ⟨size, digits, rfl⟩⟩

/-! ### Diagnostics -/

/-- The line is a diagnostic of the finding: its location, a severity, and a message that begins in
    a way the kind has. -/
def Diagnoses (s : Text) (f : Finding) : Prop :=
  ∃ place severity message, s = place ++ ": ".toList ++ severity ++ ": ".toList ++ message ∧
    Location.IsWritten place ⟨f.row.val, f.column.map (·.val)⟩ ∧ severity ∈ f.kind.severities ∧
    ':' ∉ message ∧ ∃ t, f.kind.IsMessage t ∧ t <+: message

/-- A severity and a message are found right behind the location, or the line has none. -/
theorem ofLine?_marked_iff (h : Marks k mid) :
    Location.ofLine? (before ++ mid ++ rest) = some l ↔
      Location.IsWritten before l ∧ ':' ∉ rest := by
  obtain ⟨severity, message, rfl, hsev, hmsg⟩ := h
  obtain ⟨hcolon, unread⟩ := Kind.colon_notMem_of_mem_severities hsev
  have hfield : ':' ∉ ' ' :: severity := by simp [hcolon]
  have hrest : ':' ∉ ' ' :: (message ++ rest) ↔ ':' ∉ rest := by simp [hmsg.colon_notMem]
  rw [← hrest, ← Location.ofLine?_eq_some_iff_of_field hfield unread]
  simp

theorem exists_kind_of_mem_rows {row : Pattern × List Kind} (h : row ∈ builtin.rows) :
    ∃ k, k ∈ row.2 := by
  have hkinds : ∀ written ∈ builtinRows, written.kinds ≠ [] := by decide
  obtain ⟨written, hwritten, -, heq⟩ := (mem_rows_of_ofRows ofRows_builtinRows).1 h
  rw [heq]
  exact List.exists_mem_of_ne_nil _ (hkinds written hwritten)

/-- A line is a diagnostic exactly if a pattern for the kind is found in it and it has the location
    of the finding. -/
theorem diagnoses_iff :
    Diagnoses s f ↔
      (∃ row ∈ builtin.rows, f.kind ∈ row.2 ∧ row.1.Occurs s) ∧
        Location.ofLine? s = some ⟨f.row.val, f.column.map (·.val)⟩ := by
  constructor
  · rintro ⟨place, severity, message, rfl, hplace, hsev, hcolon, t, ht, rest, rfl⟩
    have hmarks : Marks f.kind (": ".toList ++ severity ++ ": ".toList ++ t) :=
      ⟨severity, t, rfl, hsev, ht⟩
    have hline : place ++ ": ".toList ++ severity ++ ": ".toList ++ (t ++ rest) =
        place ++ (": ".toList ++ severity ++ ": ".toList ++ t) ++ rest := by simp
    obtain ⟨row, hrow, hk, hmatch⟩ := exists_matches_iff.2 hmarks
    rw [hline]
    refine ⟨⟨row, hrow, hk, place, _, rest, rfl, hmatch⟩, ?_⟩
    exact (ofLine?_marked_iff hmarks).2 ⟨hplace, fun h => hcolon (List.mem_append_right t h)⟩
  · rintro ⟨⟨row, hrow, hk, before, mid, rest, rfl, hmatch⟩, hl⟩
    have hmarks := exists_matches_iff.1 ⟨row, hrow, hk, hmatch⟩
    obtain ⟨hplace, hcolon⟩ := (ofLine?_marked_iff hmarks).1 hl
    obtain ⟨severity, t, rfl, hsev, ht⟩ := hmarks
    refine ⟨before, severity, t ++ rest, by simp, hplace, hsev, ?_, t, ht, rest, rfl⟩
    simp [ht.colon_notMem, hcolon]

/-- A line reports exactly the findings that it is a diagnostic of, unless it is a trace. -/
theorem mem_findings_builtin :
    f ∈ (builtin.classify s).findings ↔ ¬ traceMark <:+: s ∧ Diagnoses s f := by
  rw [diagnoses_iff, mem_findings_classify]
  simp only [Reports, Pattern.search_iff, Location.finding?_eq_some_iff]
  constructor
  · rintro ⟨row, hrow, untraced, occurs, _, hl, _, hk, rfl, rfl⟩
    exact ⟨untraced, ⟨row, hrow, hk, occurs⟩, hl⟩
  · rintro ⟨untraced, ⟨row, hrow, hk, occurs⟩, hl⟩
    exact ⟨row, hrow, untraced, occurs, _, hl, _, hk, rfl, rfl⟩

/-- The language of the built-in table: a line reports the findings that it is a diagnostic of,
    unless it is a trace. In a line that has a location the patterns are found nowhere but right
    behind it, and there they are a severity and a message. -/
theorem classify_builtin_grammar (s : Text) (f : Finding) :
    (f ∈ (builtin.classify s).findings ↔ ¬ traceMark <:+: s ∧ Diagnoses s f) ∧
    ∀ before mid rest l,
      (∃ row ∈ builtin.rows, row.1.Matches before mid rest) ∧
          Location.ofLine? (before ++ mid ++ rest) = some l ↔
        (∃ k, Marks k mid) ∧ Location.IsWritten before l ∧ ':' ∉ rest := by
  refine ⟨mem_findings_builtin, fun before mid rest l => ⟨?_, ?_⟩⟩
  · rintro ⟨⟨row, hrow, hmatch⟩, hl⟩
    obtain ⟨k, hk⟩ := exists_kind_of_mem_rows hrow
    have hmarks := exists_matches_iff.1 ⟨row, hrow, hk, hmatch⟩
    exact ⟨⟨k, hmarks⟩, (ofLine?_marked_iff hmarks).1 hl⟩
  · rintro ⟨⟨k, hmarks⟩, hplace⟩
    obtain ⟨row, hrow, -, hmatch⟩ := exists_matches_iff.2 hmarks
    exact ⟨⟨row, hrow, hmatch⟩, (ofLine?_marked_iff hmarks).2 hplace⟩

end Classifier

end Overseer
