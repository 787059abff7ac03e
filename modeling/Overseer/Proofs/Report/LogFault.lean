import Overseer.Proofs.Report.LogGrammar

/-! ## What is wrong with a text that is no log

`FirstFault` says, without the reader, which fault of a text is its first: there is no line at all,
the first line is no status, or a later line may not stand in the log and all lines before it may.
Reading fails exactly with that fault, so what stands behind the line that is wrong does not
matter. -/

namespace Overseer

theorem Kind.read_eq_error_iff {token : Text} {e : Fault} :
    read token = .error e ↔ (∀ k : Kind, token ≠ k.token) ∧ e = .unknownKind token := by
  simp only [ne_eq, ← ofToken?_eq_some, read]
  cases ofToken? token <;> simp [eq_comm]

theorem RunStatus.read_eq_error_iff {token : Text} {e : Fault} :
    read token = .error e ↔ (∀ t : RunStatus, token ≠ t.token) ∧ e = .unknownStatus token := by
  simp only [ne_eq, ← ofToken?_eq_some, read]
  cases ofToken? token <;> simp [eq_comm]

namespace TextLog

open Text (Fields IsLines)

variable {s t l kind : Text} {ls : List Text} {status : RunStatus} {number : Nat} {e : Fault}
  {found : FindingSet}

/-! ### Lines -/

/-- The line has the fields of a finding and its numbers, of which one may be zero, but `kind` is no
    kind there is. -/
def OddKind (l kind : Text) : Prop :=
  ∃ row column, Fields l [row, column, kind] ∧ (∃ n, Numeral.Denotes row n) ∧
    (column = noColumn ∨ ∃ n, Numeral.Denotes column n) ∧ ∀ k : Kind, kind ≠ k.token

/-- What is wrong with a line that may not stand in a log with a given status. -/
inductive LineFault (status : RunStatus) (number : Nat) (l : Text) : Fault → Prop
  | unknownKind {kind : Text} (ok : status = .ok) (odd : OddKind l kind) :
      LineFault status number l (.unknownKind kind)
  | malformed (other : ∀ kind, ¬ (status = .ok ∧ OddKind l kind)) :
      LineFault status number l (.malformedLine number l)

theorem exists_readColumn?_iff {field : Text} :
    (∃ c, readColumn? field = some c) ↔ field = noColumn ∨ ∃ n, Numeral.Denotes field n := by
  unfold readColumn?
  by_cases hfield : field = noColumn
  · simp [hfield]
  · simp [hfield, Numeral.read32?_eq_some_iff_denotes]

/-- A kind that is none there is comes to light before the numbers are looked at. -/
theorem readFinding_of_oddKind (h : OddKind l kind) :
    readFinding number l = .error (.unknownKind kind) := by
  obtain ⟨row, column, hfields, ⟨n, hrow⟩, hcolumn, hkind⟩ := h
  obtain ⟨c, hc⟩ := exists_readColumn?_iff.2 hcolumn
  have hread : Kind.read kind = .error (.unknownKind kind) := Kind.read_eq_error_iff.2 ⟨hkind, rfl⟩
  unfold readFinding
  rw [hfields.words_eq]
  simp only [Numeral.read32?_eq_some_iff_denotes.2 hrow, hc, hread]

/-- There is no third way for the line of a finding to be wrong. -/
theorem fault_of_readFinding (h : readFinding number l = .error e) :
    (∃ kind, OddKind l kind) ∨ e = .malformedLine number l := by
  unfold readFinding at h
  split at h
  · next row column kind hwords =>
    split at h
    · next r c hr hc =>
      split at h
      · next hkind =>
        obtain ⟨hkind, -⟩ := Kind.read_eq_error_iff.1 hkind
        exact .inl ⟨kind, row, column, Text.words_eq_iff.1 hwords,
          ⟨r, Numeral.read32?_eq_some_iff_denotes.1 hr⟩, exists_readColumn?_iff.1 ⟨c, hc⟩, hkind⟩
      · split at h
        · cases h
        · exact .inr (Except.error.inj h).symm
    · exact .inr (Except.error.inj h).symm
  · exact .inr (Except.error.inj h).symm

theorem OddKind.trim_ne_nil (h : OddKind l kind) : l.trim ≠ [] := by
  obtain ⟨row, column, hfields, -⟩ := h
  exact trim_ne_nil_of_fields hfields

theorem readLine_of_ne_ok (hblank : l.trim ≠ []) (hok : status ≠ .ok) :
    readLine status number l found = .error (.malformedLine number l) := by
  unfold readLine
  rw [if_neg (by simpa using hblank), if_pos hok]

theorem readLine_ok_eq_error_iff (hblank : l.trim ≠ []) :
    readLine .ok number l found = .error e ↔ readFinding number l = .error e := by
  unfold readLine
  rw [if_neg (by simpa using hblank), if_neg (by simp)]
  cases readFinding number l <;> simp

theorem lineFault_unknownKind_iff :
    LineFault status number l (.unknownKind kind) ↔ status = .ok ∧ OddKind l kind := by
  constructor
  · intro h
    cases h with
    | unknownKind ok odd => exact ⟨ok, odd⟩
  · exact fun h => .unknownKind h.1 h.2

theorem lineFault_malformedLine_iff :
    LineFault status number l (.malformedLine number l) ↔
      ¬ ∃ kind, status = .ok ∧ OddKind l kind := by
  rw [not_exists]
  constructor
  · intro h
    cases h with
    | malformed other => exact other
  · exact .malformed

theorem exists_lineFault (status : RunStatus) (number : Nat) (l : Text) :
    ∃ e, LineFault status number l e := by
  by_cases h : ∃ kind, status = .ok ∧ OddKind l kind
  · obtain ⟨kind, ok, odd⟩ := h
    exact ⟨_, .unknownKind ok odd⟩
  · exact ⟨_, lineFault_malformedLine_iff.2 h⟩

/-- Reading a line fails if it may not stand in the log, and says what is wrong with it. -/
theorem readLine_eq_error_iff :
    readLine status number l found = .error e ↔
      ¬ Legal status l ∧ LineFault status number l e := by
  by_cases hlegal : Legal status l
  · obtain ⟨found', hread, -⟩ := hlegal.exists_readLine number found
    rw [hread]
    exact iff_of_false nofun fun h => h.1 hlegal
  have hblank : l.trim ≠ [] := fun h => hlegal (.inl h)
  rw [and_iff_right hlegal]
  by_cases hok : status = .ok
  · subst hok
    rw [readLine_ok_eq_error_iff hblank]
    constructor
    · intro h
      by_cases hodd : ∃ kind, OddKind l kind
      · obtain ⟨kind, hodd⟩ := hodd
        rw [readFinding_of_oddKind hodd] at h
        cases h
        exact .unknownKind rfl hodd
      · rw [(fault_of_readFinding h).resolve_left hodd]
        exact .malformed fun kind h => hodd ⟨kind, h.2⟩
    · intro h
      cases h with
      | unknownKind _ odd => exact readFinding_of_oddKind odd
      | malformed other =>
        cases hread : readFinding number l with
        | ok f => exact absurd (.inr ⟨rfl, f, readFinding_eq_ok_iff.1 hread⟩) hlegal
        | error e =>
          have hodd : ¬ ∃ kind, OddKind l kind := fun ⟨kind, h⟩ => other kind ⟨rfl, h⟩
          rw [(fault_of_readFinding hread).resolve_left hodd]
  · rw [readLine_of_ne_ok hblank hok]
    constructor
    · intro h
      cases h
      exact .malformed fun kind h => hok h.1
    · intro h
      cases h with
      | unknownKind ok _ => exact absurd ok hok
      | malformed _ => rfl

/-- Reading lines fails at the first one that may not stand in the log. -/
theorem readLines_eq_error_iff :
    readLines status number ls found = .error e ↔
      ∃ before l after, ls = before ++ l :: after ∧ (∀ k ∈ before, Legal status k) ∧
        ¬ Legal status l ∧ LineFault status (number + before.length) l e := by
  induction ls generalizing number found with
  | nil => simp [readLines]
  | cons k ls ih =>
    rw [readLines]
    simp only [List.cons_eq_append_iff]
    cases hread : readLine status number k found with
    | error e' =>
      have hk := readLine_eq_error_iff.1 hread
      constructor
      · intro h
        cases h
        exact ⟨[], k, ls, .inl ⟨rfl, rfl⟩, List.forall_mem_nil _, hk⟩
      · rintro ⟨before, l, after, ⟨rfl, hl⟩ | ⟨before, rfl, -⟩, hbefore, hfault⟩
        · cases hl
          exact hread.symm.trans (readLine_eq_error_iff.2 hfault)
        · exact absurd (hbefore k List.mem_cons_self) hk.1
    | ok found' =>
      have hk : Legal status k := legal_of_readLine hread
      dsimp only
      rw [ih]
      constructor
      · rintro ⟨before, l, after, rfl, hbefore, hillegal, hfault⟩
        refine ⟨k :: before, l, after, .inr ⟨before, rfl, rfl⟩,
          List.forall_mem_cons.2 ⟨hk, hbefore⟩, hillegal, ?_⟩
        rwa [List.length_cons, Nat.add_comm before.length, ← Nat.add_assoc]
      · rintro ⟨before, l, after, ⟨rfl, hl⟩ | ⟨before, rfl, rfl⟩, hbefore, hillegal, hfault⟩
        · cases hl
          exact absurd hk hillegal
        · rw [List.length_cons, Nat.add_comm before.length, ← Nat.add_assoc] at hfault
          exact ⟨before, l, after, rfl, (List.forall_mem_cons.1 hbefore).2, hillegal, hfault⟩

/-! ### Texts -/

/-- The first fault of a text. Lines are counted from one, blank ones too. -/
inductive FirstFault : Text → Fault → Prop
  | empty : FirstFault [] (.malformedLine 1 [])
  | status {s first : Text} {rest : List Text} (layout : IsLines s (first :: rest))
      (unknown : ∀ t : RunStatus, first.trim ≠ t.token) : FirstFault s (.unknownStatus first.trim)
  | line {s first l : Text} {before after : List Text} {status : RunStatus} {e : Fault}
      (layout : IsLines s (first :: (before ++ l :: after))) (known : first.trim = status.token)
      (legal : ∀ k ∈ before, Legal status k) (illegal : ¬ Legal status l)
      (fault : LineFault status (2 + before.length) l e) : FirstFault s e

theorem lines_eq_nil_iff : Text.lines s = [] ↔ s = [] := by
  rw [Text.lines_eq_iff]
  constructor
  · intro h
    cases h
    rfl
  · rintro rfl
    exact .nil

/-- A text whose first line is a status is read line by line. -/
theorem read_eq_error_iff_of_status {first : Text} (layout : IsLines s (first :: ls))
    (known : first.trim = status.token) :
    read s = .error e ↔ readLines status 2 ls .empty = .error e := by
  unfold read
  rw [layout.lines_eq]
  dsimp only
  rw [RunStatus.read_eq_ok_iff.2 known]
  cases hread : readLines status 2 ls .empty <;> simp [hread]

theorem read_of_unknownStatus {first : Text} (layout : IsLines s (first :: ls))
    (unknown : ∀ t : RunStatus, first.trim ≠ t.token) :
    read s = .error (.unknownStatus first.trim) := by
  unfold read
  rw [layout.lines_eq]
  dsimp only
  rw [RunStatus.read_eq_error_iff.2 ⟨unknown, rfl⟩]

theorem read_eq_error_iff : read s = .error e ↔ FirstFault s e := by
  constructor
  · intro h
    cases hlines : Text.lines s with
    | nil =>
      obtain rfl := lines_eq_nil_iff.1 hlines
      cases h
      exact .empty
    | cons first rest =>
      have layout := Text.lines_eq_iff.1 hlines
      by_cases known : ∃ status : RunStatus, first.trim = status.token
      · obtain ⟨status, known⟩ := known
        rw [read_eq_error_iff_of_status layout known, readLines_eq_error_iff] at h
        obtain ⟨before, l, after, rfl, legal, illegal, fault⟩ := h
        exact .line layout known legal illegal fault
      · rw [not_exists] at known
        rw [read_of_unknownStatus layout known] at h
        cases h
        exact .status layout known
  · intro h
    cases h with
    | empty => rfl
    | status layout unknown => exact read_of_unknownStatus layout unknown
    | line layout known legal illegal fault =>
      rw [read_eq_error_iff_of_status layout known, readLines_eq_error_iff]
      exact ⟨_, _, _, rfl, legal, illegal, fault⟩

/-- The fault of a text is that of the first line that may not stand in the log. -/
theorem read_eq_error_iff_lineFault {first : Text} {before after : List Text}
    (layout : IsLines s (first :: (before ++ l :: after))) (known : first.trim = status.token)
    (legal : ∀ k ∈ before, Legal status k) (illegal : ¬ Legal status l) :
    read s = .error e ↔ LineFault status (2 + before.length) l e := by
  have reads : ∀ {e}, LineFault status (2 + before.length) l e → read s = .error e :=
    fun fault => read_eq_error_iff.2 (.line layout known legal illegal fault)
  constructor
  · intro h
    obtain ⟨e', fault⟩ := exists_lineFault status (2 + before.length) l
    obtain rfl : e' = e := Except.error.inj ((reads fault).symm.trans h)
    exact fault
  · exact reads

/-- Reading fails exactly with the first fault of a text. It is an unknown status exactly if there is
    a first line and it is none, and line one is malformed exactly if there is no text. Otherwise it
    is the fault of the first line that may not stand in the log: an unknown kind if nothing but the
    kind keeps the line from being one of numbers and a kind, else a malformed line, with its number
    and as it stands; and what follows that line does not matter. -/
theorem read_reports_first_fault :
    (∀ s e, read s = .error e ↔ FirstFault s e) ∧
    (∀ s token, read s = .error (.unknownStatus token) ↔ ∃ first rest,
      IsLines s (first :: rest) ∧ (∀ t : RunStatus, first.trim ≠ t.token) ∧ token = first.trim) ∧
    (∀ s l, read s = .error (.malformedLine 1 l) ↔ s = [] ∧ l = []) ∧
    ∀ s t first before l after after' status, IsLines s (first :: (before ++ l :: after)) →
      IsLines t (first :: (before ++ l :: after')) → first.trim = status.token →
      (∀ k ∈ before, Legal status k) → ¬ Legal status l →
      (∀ kind, read s = .error (.unknownKind kind) ↔ status = .ok ∧ OddKind l kind) ∧
        (read s = .error (.malformedLine (2 + before.length) l) ↔
          ¬ ∃ kind, status = .ok ∧ OddKind l kind) ∧
        read t = read s := by
  refine ⟨fun s e => read_eq_error_iff, fun s token => ⟨?_, ?_⟩, fun s l => ⟨?_, ?_⟩, ?_⟩
  · intro h
    cases read_eq_error_iff.1 h with
    | status layout unknown => exact ⟨_, _, layout, unknown, rfl⟩
    | line _ _ _ _ fault => cases fault
  · rintro ⟨first, rest, layout, unknown, rfl⟩
    exact read_of_unknownStatus layout unknown
  · intro h
    generalize hfault : Fault.malformedLine 1 l = fault at h
    cases read_eq_error_iff.1 h with
    | empty => exact ⟨rfl, (Fault.malformedLine.inj hfault).2⟩
    | status _ _ => cases hfault
    | line _ _ _ _ fault =>
      -- Lines behind the first are numbered from two.
      cases fault with
      | unknownKind _ _ => cases hfault
      | malformed _ =>
        have hnumber := (Fault.malformedLine.inj hfault).1
        omega
  · rintro ⟨rfl, rfl⟩
    rfl
  · intro s t first before l after after' status hs ht known legal illegal
    have readsS := fun {e} => read_eq_error_iff_lineFault (e := e) hs known legal illegal
    have readsT := fun {e} => read_eq_error_iff_lineFault (e := e) ht known legal illegal
    refine ⟨fun kind => readsS.trans lineFault_unknownKind_iff,
      readsS.trans lineFault_malformedLine_iff, ?_⟩
    obtain ⟨e, fault⟩ := exists_lineFault status (2 + before.length) l
    rw [readsS.2 fault, readsT.2 fault]

/-- A line with a row of zero and a kind that is none there is, behind a blank line, and what may
    follow it. -/
theorem read_reports_first_fault_oddKind :
    let s : Text := "ok\n\r\n0 none race\r\n1 2".toList
    let t : Text := "ok\n\r\n0 none race\r\n".toList
    (IsLines s ["ok".toList, [], "0 none race".toList, "1 2".toList] ∧
      IsLines t ["ok".toList, [], "0 none race".toList] ∧ "ok".toList = RunStatus.ok.token ∧
      (∀ k ∈ [([] : Text)], Legal .ok k) ∧ ¬ Legal .ok "0 none race".toList) ∧
      OddKind "0 none race".toList "race".toList ∧
      read s = .error (.unknownKind "race".toList) ∧
      read s ≠ .error (.malformedLine 3 "0 none race".toList) ∧ read t = read s := by
  intro s t
  have hs : IsLines s ["ok".toList, [], "0 none race".toList, "1 2".toList] :=
    Text.lines_eq_iff.1 (by decide)
  have ht : IsLines t ["ok".toList, [], "0 none race".toList] := Text.lines_eq_iff.1 (by decide)
  have legal : ∀ k ∈ [([] : Text)], Legal .ok k := by
    rintro k hk
    exact .inl (by rw [List.mem_singleton.1 hk]; rfl)
  have odd : OddKind "0 none race".toList "race".toList := by
    refine ⟨"0".toList, "none".toList, Text.words_eq_iff.1 (by decide),
      ⟨0, Numeral.read32?_eq_some_iff_denotes.1 (by decide)⟩, .inl rfl, ?_⟩
    intro k
    cases k <;> decide
  have illegal : ¬ Legal .ok "0 none race".toList := by
    rintro (hblank | ⟨-, f, hf⟩)
    · exact odd.trim_ne_nil hblank
    · have hread : readFinding 3 _ = .error _ := readFinding_of_oddKind odd
      rw [readFinding_eq_ok_iff.2 hf] at hread
      cases hread
  obtain ⟨-, -, -, hline⟩ := read_reports_first_fault
  obtain ⟨hkind, hmalformed, hsame⟩ := hline s t "ok".toList [[]] "0 none race".toList
    ["1 2".toList] [] .ok hs ht rfl legal illegal
  exact ⟨⟨hs, ht, rfl, legal, illegal⟩, odd, (hkind _).2 ⟨rfl, odd⟩,
    fun h => hmalformed.1 h ⟨_, rfl, odd⟩, hsame⟩

end TextLog

end Overseer
