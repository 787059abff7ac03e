import Mathlib.Data.Prod.Lex
import Mathlib.Order.WithBot
import Overseer.Proofs.Json.Readable
import Overseer.Proofs.Report.TextLog
import Overseer.Report.Format

/-! ## What a JSON log tells

The order of findings is the lexicographic order of their row, column and kind, so a set of findings
has one sorted list. The JSON log is written from that list, and everything in it can be read off
its text: the log tells apart all results, and nothing but results. -/

namespace Overseer

/-! ### The order of findings -/

namespace Finding

/-- The numbers of a finding in the order in which they are compared. -/
def key (f : Finding) : ℕ ×ₗ WithBot ℕ ×ₗ ℕ :=
  toLex (f.row.val, toLex (f.column.elim ⊥ fun c => WithBot.some c.val, f.kind.rank))

theorem before_iff_key_lt {f g : Finding} : f.Before g ↔ f.key < g.key := by
  obtain ⟨row, column, kind⟩ := f
  obtain ⟨row', column', kind'⟩ := g
  cases column with
  | none =>
    cases column' with
    | none => simp [key, Before, columnNumber, Prod.Lex.toLex_lt_toLex]
    | some c => simp [key, Before, columnNumber, Prod.Lex.toLex_lt_toLex, c.pos]
  | some b =>
    cases column' with
    | none => simp [key, Before, columnNumber, Prod.Lex.toLex_lt_toLex, Nat.ne_of_gt b.pos]
    | some c => simp [key, Before, columnNumber, Prod.Lex.toLex_lt_toLex]

theorem key_inj {f g : Finding} : f.key = g.key ↔ f = g := by
  constructor
  · intro h
    rcases before_trichotomy f g with hlt | heq | hgt
    · exact absurd (before_iff_key_lt.1 hlt) h.not_lt
    · exact heq
    · exact absurd (before_iff_key_lt.1 hgt) h.not_gt
  · rintro rfl
    rfl

instance : IsStrictTotalOrder Finding Before where
  irrefl := before_irrefl
  trans _ _ _ := Before.trans
  trichotomous f g hfg hgf := ((before_trichotomy f g).resolve_left hfg).resolve_right hgf

theorem compare_eq_cmp {f g : Finding} : f.compare g = cmp f.key g.key := by
  unfold compare
  by_cases hlt : f.Before g
  · rw [if_pos hlt]
    exact ((cmp_eq_lt_iff _ _).2 (before_iff_key_lt.1 hlt)).symm
  rw [if_neg hlt]
  by_cases heq : f = g
  · rw [if_pos heq]
    exact ((cmp_eq_eq_iff _ _).2 (key_inj.2 heq)).symm
  · rw [if_neg heq]
    have hgt := ((before_trichotomy f g).resolve_left hlt).resolve_left heq
    exact ((cmp_eq_gt_iff _ _).2 (before_iff_key_lt.1 hgt)).symm

end Finding

namespace JsonLog

open Json Text

variable {l : Layout} {d : Nat}

/-! ### Reading a finding -/

theorem readable_kind : Readable (fun _ => True) fun k : Kind => writeString k.token :=
  readable_plain (fun k => by cases k <;> decide) fun _ _ => Kind.token_inj.1

theorem readable_status : Readable (fun _ => True) fun s : RunStatus => writeString s.token :=
  readable_plain (fun s => by cases s <;> decide) fun _ _ => RunStatus.token_inj.1

/-- A column that is missing is not taken for a number. -/
theorem null_ne_numeral {n : Nat} {x y : Text} : "null".toList ++ x ≠ Numeral.write n ++ y := by
  cases h : Numeral.write n with
  | nil => exact absurd h Numeral.write_ne_nil
  | cons c s =>
    have hdigit : c.isDigit = true := Numeral.isDigit_of_mem_write (h ▸ List.mem_cons_self)
    intro heq
    have hn : 'n' = c := by simpa using congrArg List.head? heq
    subst hn
    cases hdigit

theorem readable_column : Readable StopsDigits fun c => (ofColumn c).render l d := by
  intro a b x y hx hy heq
  cases a with
  | none =>
    cases b with
    | none => exact ⟨rfl, List.append_cancel_left heq⟩
    | some b => exact absurd heq null_ne_numeral
  | some a =>
    cases b with
    | none => exact absurd heq.symm null_ne_numeral
    | some b =>
      obtain ⟨hval, hxy⟩ := readable_numeral hx hy heq
      exact ⟨congrArg some (Coordinate.ext_val hval), hxy⟩

theorem readable_finding : Readable (fun _ => True) fun f => (ofFinding f).render l d := by
  rintro ⟨row, column, kind⟩ ⟨row', column', kind'⟩ x y _ _ heq
  simp only [ofFinding, Value.render, renderFields, List.cons_append, List.append_assoc,
    List.cons.injEq, true_and, List.append_cancel_left_eq] at heq
  obtain ⟨hrow, heq⟩ := readable_numeral stopsDigits_comma stopsDigits_comma heq
  cases Coordinate.ext_val hrow
  simp only [List.cons.injEq, true_and, List.append_cancel_left_eq] at heq
  obtain ⟨rfl, heq⟩ := readable_column stopsDigits_comma stopsDigits_comma heq
  simp only [List.cons.injEq, true_and, List.append_cancel_left_eq] at heq
  obtain ⟨rfl, heq⟩ := readable_kind trivial trivial heq
  simp only [List.nil_append, List.append_cancel_left_eq, List.cons.injEq, true_and] at heq
  exact ⟨rfl, heq⟩

theorem readable_findings :
    Readable (fun _ => True) fun fs : List Finding => (Value.array (fs.map ofFinding)).render l d :=
  readable_array readable_finding fun _ => rfl

/-! ### Reading a log -/

/-- A document shows its status and the findings that it lists. -/
theorem render_document_inj {s t : RunStatus} {fs gs : List Finding} :
    (document s fs).render l d = (document t gs).render l d ↔
      s = t ∧ FindingSet.ofList fs = FindingSet.ofList gs := by
  constructor
  · intro heq
    simp only [document, Value.render, renderFields, List.cons_append, List.append_assoc,
      List.cons.injEq, true_and, List.append_cancel_left_eq] at heq
    obtain ⟨hstatus, heq⟩ := readable_status trivial trivial heq
    simp only [List.cons.injEq, true_and, List.append_cancel_left_eq] at heq
    obtain ⟨hfindings, -⟩ := readable_findings trivial trivial heq
    exact ⟨hstatus, FindingSet.ext fun f => by simp only [← FindingSet.mem_toList, hfindings]⟩
  · rintro ⟨rfl, h⟩
    simp only [document, h]

/-- The document does not depend on how the findings of the result are enumerated. -/
theorem document_of_perm {r : RunResult} {fs : List Finding} (h : fs.Perm r.findings.toList)
    (order : Enumeration) : document r.status fs = r.toJson order := by
  simp only [RunResult.toJson, document, TextLog.ofList_of_perm h,
    TextLog.ofList_of_perm (order.perm r.findings)]

theorem render_toJson_inj {order order' : Enumeration} {r t : RunResult} :
    (r.toJson order).render l d = (t.toJson order').render l d ↔
      r.status = t.status ∧ ∀ f, f ∈ r.findings ↔ f ∈ t.findings := by
  unfold RunResult.toJson
  rw [render_document_inj, TextLog.ofList_of_perm (order.perm _),
    TextLog.ofList_of_perm (order'.perm _)]
  refine and_congr_right fun _ => ⟨fun h f => by rw [h], FindingSet.ext⟩

/-- Findings have a strict total order, by row, then column, where a missing one comes first, then
    kind. The document of a result has its findings in that order, each once, in whatever order they
    were enumerated, and its text in either layout, like the text of the log file, shows the status
    and the set of findings and depends on nothing else. -/
theorem document_canonical :
    (IsStrictTotalOrder Finding Finding.Before ∧
      Kind.rank .invalidAccess < Kind.rank .freeError ∧ Kind.rank .freeError < Kind.rank .leak ∧
      ∀ f g : Finding, (f.Before g ↔ f.key < g.key) ∧ (f = g ↔ f.key = g.key) ∧
        f.compare g = cmp f.key g.key) ∧
    ∀ (r : RunResult) (fs : List Finding), fs.Perm r.findings.toList →
      (∃ sorted : List Finding, sorted.Perm fs ∧ sorted.Pairwise Finding.Before ∧
        document r.status fs = .object [("status".toList, .string r.status.token),
          ("findings".toList, .array (sorted.map ofFinding))]) ∧
      (∀ order, LogFormat.json.render order r = (document r.status fs).pretty ++ ['\n']) ∧
      ∀ (t : RunResult) (gs : List Finding), gs.Perm t.findings.toList →
        (∀ l, (document r.status fs).render l 0 = (document t.status gs).render l 0 ↔
          r.status = t.status ∧ ∀ f, f ∈ r.findings ↔ f ∈ t.findings) ∧
        ∀ order order', LogFormat.json.render order r = LogFormat.json.render order' t ↔
          r.status = t.status ∧ ∀ f, f ∈ r.findings ↔ f ∈ t.findings := by
  refine ⟨⟨inferInstance, by decide, by decide, fun f g =>
    ⟨Finding.before_iff_key_lt, Finding.key_inj.symm, Finding.compare_eq_cmp⟩⟩, ?_⟩
  intro r fs hfs
  refine ⟨⟨r.findings.toList, hfs.symm, r.findings.sorted, ?_⟩, ?_, ?_⟩
  · simp only [document, TextLog.ofList_of_perm hfs]
  · intro order
    rw [document_of_perm hfs order]
    rfl
  · intro t gs hgs
    refine ⟨fun l => ?_, fun order order' => ?_⟩
    · rw [document_of_perm hfs .sorted, document_of_perm hgs .sorted]
      exact render_toJson_inj
    refine Iff.trans ⟨List.append_cancel_right, fun h => congrArg (· ++ ['\n']) h⟩ ?_
    exact render_toJson_inj (l := .pretty)

/-- Two enumerations of one set, and a result whose missing column is another finding. -/
theorem document_canonical_reversed :
    let f : Finding := ⟨⟨9, by decide, by decide⟩, none, .leak⟩
    let g : Finding := ⟨⟨9, by decide, by decide⟩, some ⟨1, by decide, by decide⟩, .freeError⟩
    let r : RunResult := ⟨.ok, ⟨[f, g], by decide⟩⟩
    let t : RunResult := ⟨.ok, ⟨[g], by decide⟩⟩
    [g, f].Perm r.findings.toList ∧
      (document .ok [g, f]).compact = (document .ok [f, g]).compact ∧
      ∀ order order', LogFormat.json.render order r ≠ LogFormat.json.render order' t := by
  intro f g r t
  have hperm : [g, f].Perm r.findings.toList := .swap f g []
  have hcanonical := document_canonical.2 r [g, f] hperm
  refine ⟨hperm, ((hcanonical.2.2 r [f, g] .rfl).1 .compact).2 ⟨rfl, fun _ => .rfl⟩,
    fun order order' h => ?_⟩
  have hmem : f ∈ [g] :=
    (((hcanonical.2.2 t [g] .rfl).2 order order').1 h).2 f |>.1 List.mem_cons_self
  exact absurd hmem (by decide)

end JsonLog

end Overseer
