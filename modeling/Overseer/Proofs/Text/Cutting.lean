import Mathlib.Data.List.Basic
import Overseer.Text.Split

/-! ## Cutting at a character

What the pieces of a text say about it, and which texts can stand across a cut. Paths are cut like
texts, so nothing here asks for characters. -/

namespace Overseer.Text

variable {α : Type*} {c : α} {s t u a b : List α} {ts : List (List α)}

/-! ### Pieces -/

section Pieces

variable [BEq α] [LawfulBEq α]

theorem splitOn_eq_singleton_iff : s.splitOn c = [t] ↔ c ∉ s ∧ s = t := by
  constructor
  · intro h
    have hs : c ∉ s := by
      intro hc
      obtain ⟨a, b, rfl, -⟩ := List.eq_append_cons_of_mem hc
      rw [List.splitOn_append_cons_self] at h
      have hlen := congrArg List.length h
      have ha := List.length_pos_iff.2 (List.splitOn_ne_nil c a)
      have hb := List.length_pos_iff.2 (List.splitOn_ne_nil c b)
      simp only [List.length_append, List.length_singleton] at hlen
      omega
    rw [List.splitOn_eq_singleton hs] at h
    exact ⟨hs, List.singleton_inj.1 h⟩
  · rintro ⟨hs, rfl⟩
    exact List.splitOn_eq_singleton hs

theorem splitOn_eq_cons_cons_iff :
    s.splitOn c = t :: u :: ts ↔ ∃ r, c ∉ t ∧ s = t ++ c :: r ∧ r.splitOn c = u :: ts := by
  constructor
  · intro h
    by_cases hc : c ∈ s
    · obtain ⟨a, r, rfl, ha⟩ := List.eq_append_cons_of_mem hc
      rw [List.splitOn_append_cons_self_of_not_mem ha] at h
      obtain ⟨rfl, hr⟩ := List.cons.inj h
      exact ⟨r, ha, rfl, hr⟩
    · rw [List.splitOn_eq_singleton hc] at h
      cases h
  · rintro ⟨r, ht, rfl, hr⟩
    rw [List.splitOn_append_cons_self_of_not_mem ht, hr]

/-- A piece does not have the character that it is cut at. -/
theorem notMem_of_mem_splitOn (h : t ∈ s.splitOn c) : c ∉ t := by
  generalize hts : s.splitOn c = ts at h
  induction ts generalizing s with
  | nil => cases h
  | cons u ts ih =>
    cases ts with
    | nil =>
      obtain ⟨hs, rfl⟩ := splitOn_eq_singleton_iff.1 hts
      rwa [List.mem_singleton.1 h]
    | cons v ts =>
      obtain ⟨r, hu, rfl, hr⟩ := splitOn_eq_cons_cons_iff.1 hts
      rcases List.mem_cons.1 h with rfl | h
      · exact hu
      · exact ih hr h

end Pieces

/-! ### Occurrences -/

theorem prefix_append_cons_iff (ht : c ∉ t) : t <+: a ++ c :: b ↔ t <+: a := by
  induction a generalizing t with
  | nil =>
    cases t with
    | nil => exact iff_of_true List.nil_prefix List.nil_prefix
    | cons d t =>
      simp only [List.mem_cons, not_or] at ht
      simp [List.cons_prefix_cons, Ne.symm ht.1]
  | cons d a ih =>
    cases t with
    | nil => exact iff_of_true List.nil_prefix List.nil_prefix
    | cons e t =>
      simp only [List.mem_cons, not_or] at ht
      simp only [List.cons_append, List.cons_prefix_cons, ih ht.2]

/-- A text without the character stands on one side of it. -/
theorem infix_append_cons_iff (ht : c ∉ t) : t <:+: a ++ c :: b ↔ t <:+: a ∨ t <:+: b := by
  induction a with
  | nil =>
    have hstart : t <+: c :: b ↔ t <+: [] := prefix_append_cons_iff ht (a := [])
    rw [List.nil_append, List.infix_cons_iff, hstart, List.prefix_nil, List.infix_nil]
  | cons d a ih =>
    rw [List.cons_append, List.infix_cons_iff, List.infix_cons_iff, ih, ← List.cons_append,
      prefix_append_cons_iff ht, or_assoc]

/-- Where the character stands, all that comes before its first place stands before it. -/
theorem exists_append_of_append_cons (ha : c ∉ a) (h : a ++ c :: b = s ++ c :: t) :
    ∃ r, s = a ++ r ∧ c :: b = r ++ c :: t := by
  rcases List.append_eq_append_iff.1 h with ⟨r, hs, hb⟩ | ⟨r, hs, ht⟩
  · exact ⟨r, hs, hb⟩
  · cases r with
    | nil => exact ⟨[], by simpa using hs.symm, ht.symm⟩
    | cons d r =>
      obtain ⟨rfl, -⟩ := List.cons.inj ht
      exact absurd (by simp [hs]) ha

/-- The first place of the character is one place. -/
theorem append_cons_inj (ha : c ∉ a) (hs : c ∉ s) (h : a ++ c :: b = s ++ c :: t) :
    a = s ∧ b = t := by
  obtain ⟨r, rfl, hr⟩ := exists_append_of_append_cons ha h
  cases r with
  | nil => exact ⟨(List.append_nil a).symm, (List.cons.inj hr).2⟩
  | cons d r =>
    obtain ⟨rfl, -⟩ := List.cons.inj hr
    simp at hs

/-- The last place of the character is one place. -/
theorem append_cons_inj_of_last (hb : c ∉ b) (ht : c ∉ t) (h : a ++ c :: b = s ++ c :: t) :
    a = s ∧ b = t := by
  have hreverse : b.reverse ++ c :: a.reverse = t.reverse ++ c :: s.reverse := by
    simpa using congrArg List.reverse h
  obtain ⟨hbt, has⟩ := append_cons_inj (by simpa using hb) (by simpa using ht) hreverse
  exact ⟨List.reverse_injective has, List.reverse_injective hbt⟩

/-- A text that begins with the character stands behind all that has none of it. -/
theorem cons_infix_append_cons_iff (ha : c ∉ a) : c :: t <:+: a ++ c :: b ↔ c :: t <:+: c :: b := by
  constructor
  · rintro ⟨x, y, h⟩
    rw [List.append_assoc, List.cons_append] at h
    obtain ⟨r, -, hb⟩ := exists_append_of_append_cons ha h.symm
    exact ⟨r, y, by simp [hb]⟩
  · exact fun h => h.trans List.infix_append_right

end Overseer.Text
