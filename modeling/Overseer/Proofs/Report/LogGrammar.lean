import Mathlib.Logic.Relation
import Overseer.Proofs.Report.TextLog
import Overseer.Proofs.Text.Layout

/-! ## The language of text logs

Which texts are logs and what they say, told without the reader: `IsLog` says how a log is laid out,
`Means` which finding a line stands for, and `Restates` lists the changes of a text that leave what it
says. The reader accepts exactly the logs, and texts that restate each other alike. -/

namespace Overseer

open Text (Fields IsLines)

/-! ### Numerals -/

namespace Numeral

variable {s t ds : Text} {n : Nat}

/-- At least one digit, and nothing else. -/
def IsDigits (ds : Text) : Prop := ds ≠ [] ∧ ∀ c ∈ ds, c.isDigit = true

/-- The text is a numeral of `n`, which is below 2³²: digits, perhaps with a plus sign before them and
    zeros in front. -/
def Denotes (s : Text) (n : Nat) : Prop :=
  ∃ ds, (s = ds ∨ s = '+' :: ds) ∧ IsDigits ds ∧ value ds = n ∧ n < 0x100000000

/-- One more zero before the digits of a numeral. -/
inductive Pads : Text → Text → Prop
  | bare {ds : Text} (digits : IsDigits ds) : Pads ds ('0' :: ds)
  | signed {ds : Text} (digits : IsDigits ds) : Pads ('+' :: ds) ('+' :: '0' :: ds)

theorem read32?_eq_some_iff_denotes : read32? s = some n ↔ Denotes s n := by
  rw [read32?_eq_some_iff]
  simp only [Denotes, IsDigits, and_assoc]

theorem IsDigits.ne_plus (h : IsDigits ds) : ds ≠ '+' :: t := by
  rintro rfl
  cases h.2 '+' List.mem_cons_self

theorem IsDigits.cons_zero (h : IsDigits ds) : IsDigits ('0' :: ds) := by
  refine ⟨List.cons_ne_nil '0' ds, fun c hc => ?_⟩
  rcases List.mem_cons.1 hc with rfl | hc
  · rfl
  · exact h.2 c hc

theorem IsDigits.denotes_iff (h : IsDigits ds) : Denotes ds n ↔ value ds = n ∧ n < 0x100000000 := by
  constructor
  · rintro ⟨es, hes, _, hn⟩
    rcases hes with rfl | hes
    · exact hn
    · exact absurd hes h.ne_plus
  · intro hn
    exact ⟨ds, .inl rfl, h, hn⟩

theorem IsDigits.denotes_plus_iff (h : IsDigits ds) :
    Denotes ('+' :: ds) n ↔ value ds = n ∧ n < 0x100000000 := by
  constructor
  · rintro ⟨es, hes, hdigits, hn⟩
    rcases hes with hes | hes
    · exact absurd hes.symm hdigits.ne_plus
    · cases hes
      exact hn
  · intro hn
    exact ⟨ds, .inr rfl, h, hn⟩

/-- A zero in front changes no value. -/
theorem Pads.denotes_iff (h : Pads s t) : Denotes s n ↔ Denotes t n := by
  cases h with
  | bare digits => exact digits.denotes_iff.trans digits.cons_zero.denotes_iff.symm
  | signed digits => exact digits.denotes_plus_iff.trans digits.cons_zero.denotes_plus_iff.symm

theorem Pads.ne_noColumn (h : Pads s t) : s ≠ TextLog.noColumn ∧ t ≠ TextLog.noColumn := by
  have hnone : ∀ {es : Text}, IsDigits es → es ≠ TextLog.noColumn := by
    rintro es hes rfl
    cases hes.2 'n' (by decide)
  cases h with
  | bare digits => exact ⟨hnone digits, hnone digits.cons_zero⟩
  | signed digits => exact ⟨nofun, nofun⟩

end Numeral

/-! ### Tokens and findings -/

theorem Kind.read_eq_ok_iff {token : Text} {k : Kind} : read token = .ok k ↔ token = k.token := by
  rw [← ofToken?_eq_some]
  unfold read
  cases ofToken? token <;> simp

theorem RunStatus.read_eq_ok_iff {token : Text} {t : RunStatus} :
    read token = .ok t ↔ token = t.token := by
  rw [← ofToken?_eq_some]
  unfold read
  cases ofToken? token <;> simp

/-- A finding has the numbers that it was made of. -/
theorem Finding.ofNumbers?_eq_some_iff {row : Nat} {column : Option Nat} {kind : Kind}
    {f : Finding} :
    ofNumbers? row column kind = some f ↔
      row = f.row.val ∧ column = f.column.map (·.val) ∧ kind = f.kind := by
  constructor
  · intro h
    unfold ofNumbers? at h
    split at h
    · cases h
    · next c hc =>
      cases h
      exact ⟨Coordinate.ofNat?_eq_some.1 hc, rfl, rfl⟩
    · next c n hc =>
      obtain ⟨d, hd, rfl⟩ := Option.map_eq_some_iff.1 h
      exact ⟨Coordinate.ofNat?_eq_some.1 hc, congrArg some (Coordinate.ofNat?_eq_some.1 hd), rfl⟩
  · rintro ⟨rfl, rfl, rfl⟩
    exact f.ofNumbers?_self

namespace TextLog

variable {s t l m : Text} {ls ms entries : List Text} {status : RunStatus} {number : Nat}
  {f g : Finding} {found : FindingSet} {r : RunResult}

/-! ### Lines -/

/-- The field is a column: the word `none`, or a numeral of its number. -/
def IsColumn (field : Text) : Option Coordinate → Prop
  | none => field = noColumn
  | some c => Numeral.Denotes field c.val

/-- The line stands for the finding `f`: its fields are the row, the column and the kind. -/
def Means (l : Text) (f : Finding) : Prop :=
  ∃ row column, Fields l [row, column, f.kind.token] ∧ Numeral.Denotes row f.row.val ∧
    IsColumn column f.column

/-- The line may stand in a log with a given status: it is blank, or the status is ok and the line
    says that there is a finding. -/
def Legal (status : RunStatus) (l : Text) : Prop := l.trim = [] ∨ status = .ok ∧ ∃ f, Means l f

theorem not_denotes_noColumn {n : Nat} : ¬ Numeral.Denotes noColumn n := by
  rw [← Numeral.read32?_eq_some_iff_denotes]
  exact nofun

/-- Which columns a field can be, told from its number. -/
theorem isColumn_iff {field : Text} {column : Option Coordinate} :
    IsColumn field column ↔ readColumn? field = some (column.map (·.val)) := by
  unfold readColumn?
  by_cases hfield : field = noColumn
  · subst hfield
    cases column with
    | none => exact iff_of_true rfl rfl
    | some c => exact iff_of_false not_denotes_noColumn nofun
  · rw [if_neg hfield]
    cases column with
    | none => exact iff_of_false hfield (by simp)
    | some c =>
      refine Numeral.read32?_eq_some_iff_denotes.symm.trans ?_
      simp

/-- The finding that is read is the one that the line says. -/
theorem readFinding_eq_ok_iff : readFinding number l = .ok f ↔ Means l f := by
  constructor
  · intro h
    unfold readFinding at h
    split at h
    · next row column kind hwords =>
      split at h
      · next r c hr hc =>
        split at h
        · cases h
        · next k hk =>
          split at h
          · next g hg =>
            cases h
            obtain ⟨rfl, rfl, rfl⟩ := Finding.ofNumbers?_eq_some_iff.1 hg
            rw [Kind.read_eq_ok_iff] at hk
            subst hk
            exact ⟨row, column, Text.words_eq_iff.1 hwords,
              Numeral.read32?_eq_some_iff_denotes.1 hr, isColumn_iff.2 hc⟩
          · cases h
      · cases h
    · cases h
  · rintro ⟨row, column, hfields, hrow, hcolumn⟩
    unfold readFinding
    rw [hfields.words_eq]
    simp only [Numeral.read32?_eq_some_iff_denotes.2 hrow, isColumn_iff.1 hcolumn, Kind.read_token,
      Finding.ofNumbers?_self]

theorem Means.unique (h : Means l f) (h' : Means l g) : f = g := by
  have hf : readFinding 0 l = .ok f := readFinding_eq_ok_iff.2 h
  have hg : readFinding 0 l = .ok g := readFinding_eq_ok_iff.2 h'
  exact Except.ok.inj (hf.symm.trans hg)

/-- A blank line says nothing. -/
theorem Means.trim_ne_nil (h : Means l f) : l.trim ≠ [] := by
  intro hblank
  obtain ⟨row, column, hfields, _⟩ := h
  cases (Text.trim_eq_nil_iff_fields.1 hblank).unique hfields

theorem readLine_of_blank (h : l.trim = []) : readLine status number l found = .ok found := by
  unfold readLine
  rw [h]
  rfl

theorem readLine_of_means (h : Means l f) : readLine .ok number l found = .ok (found.insert f) := by
  unfold readLine
  rw [if_neg (by simpa using h.trim_ne_nil), readFinding_eq_ok_iff.2 h]
  rfl

/-- Only what may stand in a log is read. -/
theorem legal_of_readLine {found' : FindingSet}
    (h : readLine status number l found = .ok found') : Legal status l := by
  by_cases hblank : l.trim = []
  · exact .inl hblank
  unfold readLine at h
  rw [if_neg (by simpa using hblank)] at h
  split at h
  · cases h
  · next hok =>
    cases hread : readFinding number l with
    | error e =>
      rw [hread] at h
      cases h
    | ok f => exact .inr ⟨not_not.1 hok, f, readFinding_eq_ok_iff.1 hread⟩

/-- A line that may stand in a log is read, and adds what it says. -/
theorem Legal.exists_readLine (h : Legal status l) (number : Nat) (found : FindingSet) :
    ∃ found', readLine status number l found = .ok found' ∧
      ∀ f, f ∈ found' ↔ f ∈ found ∨ Means l f := by
  rcases h with hblank | ⟨rfl, f, hf⟩
  · exact ⟨found, readLine_of_blank hblank, fun f => (or_iff_left (·.trim_ne_nil hblank)).symm⟩
  · refine ⟨found.insert f, readLine_of_means hf, fun g => ?_⟩
    have hg : g = f ↔ Means l g := ⟨fun h => h ▸ hf, fun h => h.unique hf⟩
    rw [FindingSet.mem_insert, hg, or_comm]

/-- Lines are read exactly if all of them may stand in the log, and reading adds what they say. -/
theorem readLines_eq_ok_iff {found' : FindingSet} :
    readLines status number ls found = .ok found' ↔
      (∀ l ∈ ls, Legal status l) ∧ ∀ f, f ∈ found' ↔ f ∈ found ∨ ∃ l ∈ ls, Means l f := by
  induction ls generalizing number found with
  | nil =>
    simp only [readLines, Except.ok.injEq, List.not_mem_nil, false_and, exists_false, or_false]
    constructor
    · rintro rfl
      exact ⟨fun l hl => hl.elim, fun f => Iff.rfl⟩
    · intro h
      exact FindingSet.ext fun f => (h.2 f).symm
  | cons l ls ih =>
    rw [readLines, List.forall_mem_cons]
    by_cases hlegal : Legal status l
    · obtain ⟨found₁, hread, hmem⟩ := hlegal.exists_readLine number found
      have hmeans : ∀ f, f ∈ found ∨ (∃ k ∈ l :: ls, Means k f) ↔
          f ∈ found₁ ∨ ∃ k ∈ ls, Means k f := by
        intro f
        rw [hmem, List.exists_mem_cons_iff, or_assoc]
      simp only [hread, ih, hlegal, true_and, hmeans]
    · refine iff_of_false ?_ fun h => hlegal h.1.1
      cases hread : readLine status number l found with
      | error e =>
        intro h
        cases h
      | ok found₁ => exact absurd (legal_of_readLine hread) hlegal

/-! ### Logs -/

/-- The text is a log with a given status and given lines behind the first one. -/
structure IsLog (s : Text) (status : RunStatus) (entries : List Text) : Prop where
  layout : ∃ first, IsLines s (first :: entries) ∧ first.trim = status.token
  legal : ∀ l ∈ entries, Legal status l

/-- The findings are those that the lines say there are. -/
def Reports (entries : List Text) (found : FindingSet) : Prop :=
  ∀ f, f ∈ found ↔ ∃ l ∈ entries, Means l f

theorem readLines_empty_eq_ok_iff :
    readLines status number entries .empty = .ok found ↔
      (∀ l ∈ entries, Legal status l) ∧ Reports entries found := by
  rw [readLines_eq_ok_iff]
  simp only [FindingSet.not_mem_empty, false_or]
  rfl

/-- Lines of a log of a run that is not ok report nothing, so nothing is dropped from the result. -/
theorem ofStatus_of_reports (hlegal : ∀ l ∈ entries, Legal status l)
    (hreports : Reports entries found) : RunResult.ofStatus status found = ⟨status, found⟩ := by
  by_cases hok : status = .ok
  · rw [hok]
    rfl
  · have hnone : found = .empty := by
      refine FindingSet.ext fun f => ?_
      rw [hreports]
      refine iff_of_false ?_ FindingSet.not_mem_empty
      rintro ⟨l, hl, hf⟩
      rcases hlegal l hl with hblank | ⟨hstatus, _⟩
      · exact hf.trim_ne_nil hblank
      · exact hok hstatus
    rw [hnone]
    cases status <;> rfl

/-- The reader accepts exactly the logs, and gives what they say. -/
theorem read_eq_ok_iff :
    read s = .ok r ↔ ∃ entries, IsLog s r.status entries ∧ Reports entries r.findings := by
  constructor
  · intro h
    unfold read at h
    split at h
    · cases h
    next first entries hlines =>
    cases hstatus : RunStatus.read first.trim with
    | error e =>
      rw [hstatus] at h
      cases h
    | ok status =>
      cases hread : readLines status 2 entries .empty with
      | error e =>
        simp only [hstatus, hread] at h
        cases h
      | ok found =>
        obtain ⟨hlegal, hreports⟩ := readLines_empty_eq_ok_iff.1 hread
        simp only [hstatus, hread, ofStatus_of_reports hlegal hreports] at h
        cases h
        have hlayout := Text.lines_eq_iff.1 hlines
        exact ⟨entries, ⟨⟨first, hlayout, RunStatus.read_eq_ok_iff.1 hstatus⟩, hlegal⟩, hreports⟩
  · rintro ⟨entries, ⟨⟨first, hlayout, hfirst⟩, hlegal⟩, hreports⟩
    have hread : readLines r.status 2 entries .empty = .ok r.findings :=
      readLines_empty_eq_ok_iff.2 ⟨hlegal, hreports⟩
    unfold read
    rw [hlayout.lines_eq]
    simp only [RunStatus.read_eq_ok_iff.2 hfirst, hread, ofStatus_of_reports hlegal hreports]

theorem exists_readLines (h : ∀ l ∈ ls, Legal status l) (number : Nat) (found : FindingSet) :
    ∃ found', readLines status number ls found = .ok found' := by
  induction ls generalizing number found with
  | nil => exact ⟨found, rfl⟩
  | cons l ls ih =>
    obtain ⟨hl, hls⟩ := List.forall_mem_cons.1 h
    obtain ⟨found₁, hread, _⟩ := hl.exists_readLine number found
    rw [readLines, hread]
    exact ih hls (number + 1) found₁

/-- Every log is read. -/
theorem IsLog.exists_read (h : IsLog s status entries) :
    ∃ found, read s = .ok ⟨status, found⟩ := by
  obtain ⟨found, hread⟩ := exists_readLines h.legal 2 .empty
  have hreports : Reports entries found := (readLines_empty_eq_ok_iff.1 hread).2
  exact ⟨found, read_eq_ok_iff.2 ⟨entries, h, hreports⟩⟩

/-! ### Texts that say the same -/

/-- Changes of the lines behind the first one. A line may change at the head only, because lines may
    change places. -/
inductive Edit : List Text → List Text → Prop
  | permute {ls ms : List Text} (perm : ls.Perm ms) : Edit ls ms
  | duplicate (l : Text) (ls : List Text) : Edit (l :: ls) (l :: l :: ls)
  | insertBlank {l : Text} (blank : l.trim = []) (ls : List Text) : Edit ls (l :: ls)
  /-- Other blanks around the same words. -/
  | reindent {l m : Text} {ws : List Text} (before : Fields l ws) (after : Fields m ws)
      (ls : List Text) : Edit (l :: ls) (m :: ls)
  | padRow {l m row row' column kind : Text} (before : Fields l [row, column, kind])
      (pads : Numeral.Pads row row') (after : Fields m [row', column, kind]) (ls : List Text) :
      Edit (l :: ls) (m :: ls)
  | padColumn {l m row column column' kind : Text} (before : Fields l [row, column, kind])
      (pads : Numeral.Pads column column') (after : Fields m [row, column', kind])
      (ls : List Text) : Edit (l :: ls) (m :: ls)

/-- Changes of a text that leave what it says if it is a log. -/
inductive Restates : Text → Text → Prop
  | edit {s t first : Text} {ls ms : List Text} (before : IsLines s (first :: ls))
      (after : IsLines t (first :: ms)) (edit : Edit ls ms) : Restates s t
  /-- A line that ends with a line feed ends with a carriage return and a line feed. -/
  | lineEnd (s t : Text) : Restates (s ++ '\n' :: t) (s ++ '\r' :: '\n' :: t)

/-- Two lines that stand for the same and are both blank or both not. -/
structure Alike (l m : Text) : Prop where
  blank : l.trim = [] ↔ m.trim = []
  means : ∀ f, Means l f ↔ Means m f

theorem Alike.legal_iff (h : Alike l m) : Legal status l ↔ Legal status m := by
  unfold Legal
  simp only [h.blank, h.means]

theorem alike_of_fields {ws : List Text} (hl : Fields l ws) (hm : Fields m ws) : Alike l m := by
  have hiff : ∀ vs, Fields l vs ↔ Fields m vs := by
    intro vs
    rw [← Text.words_eq_iff, ← Text.words_eq_iff, hl.words_eq, hm.words_eq]
  refine ⟨?_, fun f => ?_⟩
  · rw [Text.trim_eq_nil_iff_fields, Text.trim_eq_nil_iff_fields, hiff]
  · simp only [Means, hiff]

/-- The finding that three fields stand for. -/
theorem means_iff_of_fields {row column kind : Text} (h : Fields l [row, column, kind]) :
    Means l f ↔
      Numeral.Denotes row f.row.val ∧ IsColumn column f.column ∧ kind = f.kind.token := by
  constructor
  · rintro ⟨row', column', hfields, hrow, hcolumn⟩
    cases h.unique hfields
    exact ⟨hrow, hcolumn, rfl⟩
  · rintro ⟨hrow, hcolumn, rfl⟩
    exact ⟨row, column, h, hrow, hcolumn⟩

theorem trim_ne_nil_of_fields {w : Text} {ws : List Text} (h : Fields l (w :: ws)) :
    l.trim ≠ [] := by
  intro hblank
  cases (Text.trim_eq_nil_iff_fields.1 hblank).unique h

theorem alike_padRow {row row' column kind : Text} (hl : Fields l [row, column, kind])
    (pads : Numeral.Pads row row') (hm : Fields m [row', column, kind]) : Alike l m := by
  refine ⟨iff_of_false (trim_ne_nil_of_fields hl) (trim_ne_nil_of_fields hm), fun f => ?_⟩
  rw [means_iff_of_fields hl, means_iff_of_fields hm, pads.denotes_iff]

theorem isColumn_pads {field field' : Text} (pads : Numeral.Pads field field')
    (column : Option Coordinate) : IsColumn field column ↔ IsColumn field' column := by
  cases column with
  | none => exact iff_of_false pads.ne_noColumn.1 pads.ne_noColumn.2
  | some c => exact pads.denotes_iff

theorem alike_padColumn {row column column' kind : Text} (hl : Fields l [row, column, kind])
    (pads : Numeral.Pads column column') (hm : Fields m [row, column', kind]) : Alike l m := by
  refine ⟨iff_of_false (trim_ne_nil_of_fields hl) (trim_ne_nil_of_fields hm), fun f => ?_⟩
  rw [means_iff_of_fields hl, means_iff_of_fields hm, isColumn_pads pads]

theorem trim_dropReturn (l : Text) : (Text.dropReturn l).trim = l.trim := by
  by_cases hlast : l.getLast? = some '\r'
  · obtain ⟨k, rfl⟩ := List.getLast?_eq_some_iff.1 hlast
    have hblank : isBlank '\r' = true := by decide
    rw [Text.dropReturn_append_return, Text.trim_append_blank hblank]
  · rw [Text.dropReturn_of_ne hlast]

theorem words_dropReturn (l : Text) : (Text.dropReturn l).words = l.words := by
  by_cases hlast : l.getLast? = some '\r'
  · obtain ⟨k, rfl⟩ := List.getLast?_eq_some_iff.1 hlast
    have hblank : isBlank '\r' = true := by decide
    rw [Text.dropReturn_append_return, Text.words_append_blank hblank, Text.words_nil,
      List.append_nil]
  · rw [Text.dropReturn_of_ne hlast]

/-- A carriage return at the end of a line says nothing. -/
theorem alike_dropReturn (l : Text) : Alike (Text.dropReturn l) l :=
  alike_of_fields (Text.words_eq_iff.1 (words_dropReturn l)) (Text.fields_words l)

/-- What the lines of a log say together. -/
structure AllAlike (ls ms : List Text) : Prop where
  legal : ∀ status, (∀ l ∈ ls, Legal status l) ↔ ∀ m ∈ ms, Legal status m
  means : ∀ f, (∃ l ∈ ls, Means l f) ↔ ∃ m ∈ ms, Means m f

theorem Alike.append_cons (h : Alike l m) (ks ls : List Text) :
    AllAlike (ks ++ l :: ls) (ks ++ m :: ls) := by
  refine ⟨fun status => ?_, fun f => ?_⟩
  · rw [List.forall_mem_append, List.forall_mem_append, List.forall_mem_cons, List.forall_mem_cons,
      h.legal_iff]
  · simp only [List.mem_append, List.mem_cons, or_and_right, exists_or, exists_eq_left, h.means]

theorem Edit.allAlike (h : Edit ls ms) : AllAlike ls ms := by
  cases h with
  | permute perm =>
    refine ⟨fun status => ?_, fun f => ?_⟩
    · simp only [perm.mem_iff]
    · simp only [perm.mem_iff]
  | duplicate l ls =>
    refine ⟨fun status => ?_, fun f => ?_⟩
    · simp
    · simp
  | insertBlank blank =>
    refine ⟨fun status => ?_, fun f => ?_⟩
    · rw [List.forall_mem_cons]
      exact (and_iff_right (.inl blank)).symm
    · rw [List.exists_mem_cons_iff]
      exact (or_iff_right (·.trim_ne_nil blank)).symm
  | reindent before after ls => exact (alike_of_fields before after).append_cons [] ls
  | padRow before pads after ls => exact (alike_padRow before pads after).append_cons [] ls
  | padColumn before pads after ls => exact (alike_padColumn before pads after).append_cons [] ls

theorem read_eq_ok_iff_of_lines {first : Text} (hs : IsLines s (first :: ls)) :
    read s = .ok r ↔
      first.trim = r.status.token ∧ (∀ l ∈ ls, Legal r.status l) ∧ Reports ls r.findings := by
  rw [read_eq_ok_iff]
  constructor
  · rintro ⟨entries, ⟨⟨first', hs', hfirst⟩, hlegal⟩, hreports⟩
    cases hs.lines_eq.symm.trans hs'.lines_eq
    exact ⟨hfirst, hlegal, hreports⟩
  · rintro ⟨hfirst, hlegal, hreports⟩
    exact ⟨ls, ⟨⟨first, hs, hfirst⟩, hlegal⟩, hreports⟩

/-- What a log says is told from what its first line is and what the others say together. -/
theorem AllAlike.read_iff {first first' : Text} (h : AllAlike ls ms) (hs : IsLines s (first :: ls))
    (ht : IsLines t (first' :: ms)) (hfirst : first.trim = first'.trim) :
    read s = .ok r ↔ read t = .ok r := by
  rw [read_eq_ok_iff_of_lines hs, read_eq_ok_iff_of_lines ht, hfirst, h.legal]
  simp only [Reports, h.means]

theorem Restates.read_iff (h : Restates s t) : read s = .ok r ↔ read t = .ok r := by
  cases h with
  | edit before after edit => exact edit.allAlike.read_iff before after rfl
  | lineEnd s t =>
    obtain ⟨before, after, l, hshort, hlong⟩ := Text.lines_insert_return s t
    rw [Text.lines_eq_iff] at hshort hlong
    cases before with
    | nil =>
      have hsame : AllAlike after after := ⟨fun status => Iff.rfl, fun f => Iff.rfl⟩
      exact hsame.read_iff hshort hlong (trim_dropReturn l)
    | cons first before =>
      exact ((alike_dropReturn l).append_cons before after).read_iff hshort hlong rfl

/-- A text that is changed again and again says the same all along. -/
theorem read_iff_of_eqvGen (h : Relation.EqvGen Restates s t) :
    read s = .ok r ↔ read t = .ok r := by
  induction h with
  | rel s t h => exact h.read_iff
  | refl s => exact Iff.rfl
  | symm s t _ ih => exact ih.symm
  | trans s t u _ _ ih₁ ih₂ => exact ih₁.trans ih₂

/-- What is read is ok or has no findings. -/
theorem ok_or_empty_of_read (h : read s = .ok r) : r.status = .ok ∨ r.findings = .empty := by
  obtain ⟨entries, hlog, hreports⟩ := read_eq_ok_iff.1 h
  have hr : RunResult.ofStatus r.status r.findings = r :=
    ofStatus_of_reports hlog.legal hreports
  rw [← hr]
  exact ok_or_empty_ofStatus r.status r.findings

/-- Reading accepts exactly the logs. The result has the status of the first line and the findings
    that the other lines stand for, none unless the status is ok; no restating of the log changes it;
    and what is written for it, in any order, is read as it again. -/
theorem read_accepts_logs :
    (∀ s, (∃ r, read s = .ok r) ↔ ∃ status entries, IsLog s status entries) ∧
    (∀ s r, read s = .ok r ↔
      ∃ entries, IsLog s r.status entries ∧ Reports entries r.findings) ∧
    (∀ s r, read s = .ok r → r.status = .ok ∨ r.findings = .empty) ∧
    (∀ s t r, Relation.EqvGen Restates s t → (read s = .ok r ↔ read t = .ok r)) ∧
    ∀ s r fs, read s = .ok r → fs.Perm r.findings.toList → read (write r.status fs) = .ok r := by
  refine ⟨fun s => ⟨?_, ?_⟩, fun s r => read_eq_ok_iff, fun s r => ok_or_empty_of_read,
    fun s t r => read_iff_of_eqvGen, fun s r fs h hfs => ?_⟩
  · rintro ⟨r, h⟩
    obtain ⟨entries, hlog, _⟩ := read_eq_ok_iff.1 h
    exact ⟨r.status, entries, hlog⟩
  · rintro ⟨status, entries, hlog⟩
    obtain ⟨found, h⟩ := hlog.exists_read
    exact ⟨⟨status, found⟩, h⟩
  · exact read_write_of_perm hfs (ok_or_empty_of_read h)

/-- A log, and the same log with a padded row and another line end. -/
theorem read_accepts_logs_padded :
    let s : Text := "ok\n7 none leak\n".toList
    let t : Text := "ok\r\n07 none leak\n".toList
    let f : Finding := ⟨⟨7, by decide, by decide⟩, none, .leak⟩
    let r : RunResult := ⟨.ok, ⟨[f], by decide⟩⟩
    read s = .ok r ∧ Relation.EqvGen Restates s t ∧ [f].Perm r.findings.toList ∧
      ((∃ r, read t = .ok r) ↔ ∃ status entries, IsLog t status entries) ∧
      (read t = .ok r ↔ ∃ entries, IsLog t .ok entries ∧ Reports entries r.findings) ∧
      (r.status = .ok ∨ r.findings = .empty) ∧ (read s = .ok r ↔ read t = .ok r) ∧
      read (write .ok [f]) = .ok r := by
  intro s t f r
  have hs : read s = .ok r := by decide
  have hst : Relation.EqvGen Restates s t := by
    have hrow : Fields "7 none leak".toList ["7".toList, "none".toList, "leak".toList] :=
      Text.words_eq_iff.1 (by decide)
    have hrow' : Fields "07 none leak".toList ["07".toList, "none".toList, "leak".toList] :=
      Text.words_eq_iff.1 (by decide)
    have hlines : IsLines s ["ok".toList, "7 none leak".toList] := Text.lines_eq_iff.1 (by decide)
    have hlines' : IsLines "ok\n07 none leak\n".toList ["ok".toList, "07 none leak".toList] :=
      Text.lines_eq_iff.1 (by decide)
    have hpads : Numeral.Pads "7".toList "07".toList :=
      .bare ⟨by decide, List.all_eq_true.1 (by decide)⟩
    have hpadded : Restates s "ok\n07 none leak\n".toList :=
      .edit hlines hlines' (.padRow hrow hpads hrow' [])
    have hended : Restates "ok\n07 none leak\n".toList t :=
      .lineEnd "ok".toList "07 none leak\n".toList
    exact .trans _ _ _ (.rel _ _ hpadded) (.rel _ _ hended)
  have hperm : [f].Perm r.findings.toList := .refl [f]
  obtain ⟨haccepts, hmeans, hempty, hrestates, hagain⟩ := read_accepts_logs
  exact ⟨hs, hst, hperm, haccepts t, hmeans t r, hempty s r hs, hrestates s t r hst,
    hagain s r [f] hs hperm⟩

end TextLog

end Overseer
