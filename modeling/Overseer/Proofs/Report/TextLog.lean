import Overseer.Proofs.Text.Fields
import Overseer.Proofs.Text.Numeral
import Overseer.Report.TextLog

/-! ## Reading what was written

A text log that was written is read back as the result it was written for, in whatever order its
findings stand, unless it is of a result that no run has: one that is not ok and has findings. That
one is refused at its first finding. -/

namespace Overseer

/-! ### Words of a log -/

theorem isBlank_of_isDigit {c : Char} (h : c.isDigit = true) : isBlank c = false := by
  have hrange : 48 ≤ c.toNat ∧ c.toNat ≤ 57 := by
    simpa [Char.isDigit, UInt32.le_iff_toNat_le] using h
  simp only [isBlank, blankRanges, CodeRanges.contains]
  simp
  omega

theorem Numeral.isWord_write (n : Nat) : Text.IsWord (write n) :=
  ⟨write_ne_nil, fun _ hc => isBlank_of_isDigit (isDigit_of_mem_write hc)⟩

theorem Kind.isWord_token (k : Kind) : Text.IsWord k.token := by
  cases k <;> exact .of_all nofun rfl

theorem RunStatus.isWord_token (s : RunStatus) : Text.IsWord s.token := by
  cases s <;> exact .of_all nofun rfl

/-- A word stands on one line. -/
theorem Text.IsWord.not_mem {w : Text} (h : Text.IsWord w) : '\n' ∉ w ∧ '\r' ∉ w := by
  constructor
  · intro hc
    cases h.not_blank _ hc
  · intro hc
    cases h.not_blank _ hc

theorem Kind.read_token (k : Kind) : Kind.read k.token = .ok k := by
  unfold Kind.read
  rw [Kind.ofToken?_eq_some.2 rfl]

theorem RunStatus.read_token (s : RunStatus) : RunStatus.read s.token = .ok s := by
  unfold RunStatus.read
  rw [RunStatus.ofToken?_eq_some.2 rfl]

theorem Coordinate.ofNat?_val (c : Coordinate) : Coordinate.ofNat? c.val = some c :=
  Coordinate.ofNat?_eq_some.2 rfl

/-- A finding is made of its numbers. -/
theorem Finding.ofNumbers?_self (f : Finding) :
    Finding.ofNumbers? f.row.val (f.column.map (·.val)) f.kind = some f := by
  obtain ⟨row, column, kind⟩ := f
  cases column <;> simp [ofNumbers?, Coordinate.ofNat?_val]

namespace TextLog

variable {status : RunStatus} {number : Nat} {found : FindingSet} {f : Finding} {fs : List Finding}

/-! ### One finding -/

theorem isWord_writeColumn (column : Option Coordinate) : Text.IsWord (writeColumn column) := by
  cases column with
  | none => exact .of_all nofun rfl
  | some c => exact Numeral.isWord_write c.val

/-- The placeholder of a column is no numeral. -/
theorem write_ne_noColumn {n : Nat} : Numeral.write n ≠ noColumn := by
  intro h
  have hn : 'n' ∈ Numeral.write n := by
    rw [h]
    decide
  cases Numeral.isDigit_of_mem_write hn

theorem readColumn?_writeColumn (column : Option Coordinate) :
    readColumn? (writeColumn column) = some (column.map (·.val)) := by
  cases column with
  | none => exact if_pos rfl
  | some c =>
    unfold readColumn? writeColumn
    rw [if_neg write_ne_noColumn, Numeral.read32?_write c.bounded]
    rfl

theorem isWord_fields :
    ∀ w ∈ [Numeral.write f.row.val, writeColumn f.column, f.kind.token], Text.IsWord w := by
  simp [Numeral.isWord_write, isWord_writeColumn, Kind.isWord_token]

theorem readFinding_writeFinding : readFinding number (writeFinding f) = .ok f := by
  unfold readFinding writeFinding
  rw [Text.words_spaced isWord_fields]
  simp only [Numeral.read32?_write f.row.bounded, readColumn?_writeColumn, Kind.read_token,
    Finding.ofNumbers?_self]

/-- The line of a finding is one line. -/
theorem not_mem_writeFinding : '\n' ∉ writeFinding f ∧ '\r' ∉ writeFinding f := by
  constructor
  · intro h
    rcases Text.mem_spaced h with h | ⟨w, hw, hc⟩
    · cases h
    · exact (isWord_fields w hw).not_mem.1 hc
  · intro h
    rcases Text.mem_spaced h with h | ⟨w, hw, hc⟩
    · cases h
    · exact (isWord_fields w hw).not_mem.2 hc

/-- The line of a finding is not blank. -/
theorem isEmpty_trim_writeFinding : (writeFinding f).trim.isEmpty = false := by
  rw [List.isEmpty_eq_false_iff]
  intro h
  have hwords := Text.words_of_trim_eq_nil h
  unfold writeFinding at hwords
  rw [Text.words_spaced isWord_fields] at hwords
  cases hwords

/-! ### Lines -/

theorem lines_write : (write status fs).lines = status.token :: fs.map writeFinding := by
  unfold write
  refine Text.lines_flatMap fun l hl => ?_
  rcases List.mem_cons.1 hl with rfl | hl
  · exact status.isWord_token.not_mem
  · obtain ⟨f, _, rfl⟩ := List.mem_map.1 hl
    exact not_mem_writeFinding

theorem readLine_writeFinding :
    readLine .ok number (writeFinding f) found = .ok (found.insert f) := by
  unfold readLine
  rw [isEmpty_trim_writeFinding, readFinding_writeFinding]
  rfl

/-- Only an ok run may have a finding. -/
theorem readLine_writeFinding_of_ne (h : status ≠ .ok) :
    readLine status number (writeFinding f) found =
      .error (.malformedLine number (writeFinding f)) := by
  unfold readLine
  rw [isEmpty_trim_writeFinding]
  simp [h]

theorem readLines_map_writeFinding :
    readLines .ok number (fs.map writeFinding) found = .ok (found.insertAll fs) := by
  induction fs generalizing number found with
  | nil => rfl
  | cons f fs ih =>
    rw [List.map_cons, readLines, readLine_writeFinding]
    exact ih

/-! ### Logs -/

theorem read_write_ok : read (write .ok fs) = .ok ⟨.ok, .ofList fs⟩ := by
  unfold read
  rw [lines_write]
  simp only [(RunStatus.isWord_token _).trim_eq, RunStatus.read_token, readLines_map_writeFinding]
  rfl

theorem read_write_nil : read (write status []) = .ok (.ofStatus status .empty) := by
  unfold read
  rw [lines_write]
  simp only [(RunStatus.isWord_token _).trim_eq, RunStatus.read_token]
  rfl

theorem read_write_cons_of_ne (h : status ≠ .ok) :
    read (write status (f :: fs)) = .error (.malformedLine 2 (writeFinding f)) := by
  unfold read
  rw [lines_write]
  simp only [(RunStatus.isWord_token _).trim_eq, RunStatus.read_token]
  rw [List.map_cons, readLines, readLine_writeFinding_of_ne h]

/-- A list in any order makes the set that it enumerates. -/
theorem ofList_of_perm {a : FindingSet} (h : fs.Perm a.toList) : FindingSet.ofList fs = a := by
  refine FindingSet.ext fun f => ?_
  rw [FindingSet.mem_ofList, h.mem_iff, FindingSet.mem_toList]

/-- The log of a result that a run can have is read back as that result. -/
theorem read_write_of_perm {r : RunResult} (h : fs.Perm r.findings.toList)
    (hr : r.status = .ok ∨ r.findings = .empty) : read (write r.status fs) = .ok r := by
  obtain ⟨status, findings⟩ := r
  rcases hr with rfl | rfl
  · rw [read_write_ok, ofList_of_perm h]
  · have hfs : fs = [] := h.eq_nil
    subst hfs
    rw [read_write_nil]
    cases status <;> rfl

theorem ok_or_empty_ofStatus (s : RunStatus) (a : FindingSet) :
    (RunResult.ofStatus s a).status = .ok ∨ (RunResult.ofStatus s a).findings = .empty := by
  cases s with
  | ok => exact .inl rfl
  | timeout => exact .inr rfl
  | unknown => exact .inr rfl
  | error => exact .inr rfl

/-- Whatever order the findings are written in, reading gives the result back if it is ok or has no
    findings, and otherwise refuses it at the first finding. So the log tells apart all results that
    a run can have. -/
theorem read_write :
    (∀ (r : RunResult) (fs : List Finding), fs.Perm r.findings.toList →
      (r.status = .ok ∨ r.findings = .empty → read (write r.status fs) = .ok r) ∧
      (¬ (r.status = .ok ∨ r.findings = .empty) → ∃ f rest, fs = f :: rest ∧
        read (write r.status fs) = .error (.malformedLine 2 (writeFinding f)))) ∧
    ∀ (s t : RunStatus) (a b : FindingSet) (fs gs : List Finding),
      fs.Perm (RunResult.ofStatus s a).findings.toList →
      gs.Perm (RunResult.ofStatus t b).findings.toList →
      write (RunResult.ofStatus s a).status fs = write (RunResult.ofStatus t b).status gs →
      RunResult.ofStatus s a = RunResult.ofStatus t b := by
  refine ⟨fun r fs h => ⟨read_write_of_perm h, fun hr => ?_⟩, ?_⟩
  · rw [not_or] at hr
    cases fs with
    | nil =>
      refine absurd (FindingSet.ext fun f => ?_) hr.2
      rw [← FindingSet.mem_toList, ← h.mem_iff]
      simp
    | cons f rest => exact ⟨f, rest, rfl, read_write_cons_of_ne hr.1⟩
  · intro s t a b fs gs hfs hgs htext
    have hs := read_write_of_perm hfs (ok_or_empty_ofStatus s a)
    have ht := read_write_of_perm hgs (ok_or_empty_ofStatus t b)
    rw [htext, ht] at hs
    exact (Except.ok.inj hs).symm

/-- Two findings in reverse order, for a result that is ok and for one that timed out. -/
theorem read_write_reversed :
    let f : Finding := ⟨⟨9, by decide, by decide⟩, none, .leak⟩
    let g : Finding := ⟨⟨12, by decide, by decide⟩, some ⟨3, by decide, by decide⟩, .freeError⟩
    let a : FindingSet := ⟨[f, g], by decide⟩
    [g, f].Perm a.toList ∧ read (write .ok [g, f]) = .ok ⟨.ok, a⟩ ∧
      (∃ h rest, [g, f] = h :: rest ∧
        read (write .timeout [g, f]) = .error (.malformedLine 2 (writeFinding h))) ∧
      RunResult.ofStatus .timeout a = RunResult.ofStatus .timeout .empty := by
  intro f g a
  have hperm : [g, f].Perm a.toList := .swap f g []
  refine ⟨hperm, (read_write.1 ⟨.ok, a⟩ [g, f] hperm).1 (.inl rfl),
    (read_write.1 ⟨.timeout, a⟩ [g, f] hperm).2 (by decide), ?_⟩
  exact read_write.2 .timeout .timeout a .empty [] [] .nil .nil rfl

end TextLog

end Overseer
