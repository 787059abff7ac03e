import Overseer.Pattern.Search

/-! ## The search finds what matches

`search_iff` says that the search is right: it finds a pattern in a text exactly if the pattern
matches some stretch of it. The steps follow the search: what matches the empty stretch is nullable,
and what begins with a character goes on as one of the patterns that `after` gives. -/

namespace Overseer.Pattern

variable {p q : Pattern} {before mid rest : Text} {c : Char}

/-! ### Inversion -/

theorem matches_empty : Matches .empty before mid rest ↔ mid = [] := by
  constructor
  · intro h
    cases h
    rfl
  · rintro rfl
    exact .empty

theorem matches_oneOf {s : CharSet} :
    Matches (.oneOf s) before mid rest ↔ ∃ d, mid = [d] ∧ s.contains d = true := by
  constructor
  · intro h
    cases h with
    | oneOf h => exact ⟨_, rfl, h⟩
  · rintro ⟨d, rfl, h⟩
    exact .oneOf h

theorem matches_seq :
    Matches (.seq p q) before mid rest ↔
      ∃ s t, mid = s ++ t ∧ Matches p before s (t ++ rest) ∧ Matches q (before ++ s) t rest := by
  constructor
  · intro h
    cases h with
    | seq hp hq => exact ⟨_, _, rfl, hp, hq⟩
  · rintro ⟨s, t, rfl, hp, hq⟩
    exact .seq hp hq

/-- A stretch that begins with a character: `p` reads the character, or `p` matches nothing and `q`
    reads it. -/
theorem matches_seq_cons {s : Text} :
    Matches (.seq p q) before (c :: s) rest ↔
      (∃ s₁ s₂, s = s₁ ++ s₂ ∧ Matches p before (c :: s₁) (s₂ ++ rest) ∧
        Matches q (before ++ c :: s₁) s₂ rest) ∨
      Matches p before [] (c :: s ++ rest) ∧ Matches q before (c :: s) rest := by
  rw [matches_seq]
  constructor
  · rintro ⟨s₁, t, hs, hp, hq⟩
    cases s₁ with
    | nil =>
      have hcs : c :: s = t := hs
      subst hcs
      rw [List.append_nil] at hq
      exact .inr ⟨hp, hq⟩
    | cons d s₁ =>
      obtain ⟨rfl, rfl⟩ := List.cons.inj hs
      exact .inl ⟨s₁, t, rfl, hp, hq⟩
  · rintro (⟨s₁, s₂, rfl, hp, hq⟩ | ⟨hp, hq⟩)
    · exact ⟨c :: s₁, s₂, rfl, hp, hq⟩
    · exact ⟨[], c :: s, rfl, hp, by rw [List.append_nil]; exact hq⟩

theorem matches_alt :
    Matches (.alt p q) before mid rest ↔ Matches p before mid rest ∨ Matches q before mid rest := by
  constructor
  · intro h
    cases h with
    | altLeft h => exact .inl h
    | altRight h => exact .inr h
  · rintro (h | h)
    · exact .altLeft h
    · exact .altRight h

theorem matches_atLeastOne :
    Matches (.atLeastOne p) before mid rest ↔ Matches (.seq p (.many p)) before mid rest := by
  rw [matches_seq]
  constructor
  · intro h
    cases h with
    | atLeastOne hp hq => exact ⟨_, _, rfl, hp, hq⟩
  · rintro ⟨s, t, rfl, hp, hq⟩
    exact .atLeastOne hp hq

theorem matches_anchor {a : Anchor} :
    Matches (.anchor a) before mid rest ↔
      mid = [] ∧ a.holds before.getLast? rest.head? = true := by
  constructor
  · intro h
    cases h with
    | anchor h => exact ⟨rfl, h⟩
  · rintro ⟨rfl, h⟩
    exact .anchor h

/-- Stretches of a repetition that match nothing can be left out, so one that is not empty begins
    with a stretch that is not. -/
theorem matches_many_cons {s : Text} :
    Matches (.many p) before (c :: s) rest ↔
      ∃ s₁ s₂, s = s₁ ++ s₂ ∧ Matches p before (c :: s₁) (s₂ ++ rest) ∧
        Matches (.many p) (before ++ c :: s₁) s₂ rest := by
  constructor
  · intro h
    generalize hm : Pattern.many p = m at h
    generalize hs : c :: s = mid at h
    induction h with
    | empty | oneOf _ | seq _ _ _ _ | altLeft _ _ | altRight _ _ | atLeastOne _ _ _ _ | anchor _ =>
      cases hm
    | manyNil => cases hs
    | @manyCons _ before s₁ t rest hp hq _ ih =>
      cases hm
      cases s₁ with
      | nil =>
        rw [List.append_nil] at ih
        exact ih rfl hs
      | cons d s₁ =>
        obtain ⟨rfl, rfl⟩ := List.cons.inj hs
        exact ⟨s₁, t, rfl, hp, hq⟩
  · rintro ⟨s₁, s₂, rfl, hp, hq⟩
    exact .manyCons hp hq

theorem matches_andThen :
    Matches (p.andThen q) before mid rest ↔ Matches (.seq p q) before mid rest := by
  cases p with
  | empty =>
    rw [matches_seq]
    constructor
    · intro h
      exact ⟨[], mid, rfl, .empty, by rw [List.append_nil]; exact h⟩
    · rintro ⟨s, t, rfl, hs, h⟩
      rw [matches_empty.1 hs, List.append_nil] at h
      rw [matches_empty.1 hs]
      exact h
  | oneOf _ | seq _ _ | alt _ _ | many _ | atLeastOne _ | anchor _ => rfl

/-! ### The two steps of the search -/

/-- What is nullable at a place matches the empty stretch there. -/
theorem nullable_iff :
    p.nullable before.getLast? rest.head? = true ↔ Matches p before [] rest := by
  induction p generalizing before rest with
  | empty => simp [nullable, matches_empty]
  | oneOf s => simp [nullable, matches_oneOf]
  | seq p q ihp ihq =>
    rw [nullable, Bool.and_eq_true, ihp, ihq, matches_seq]
    constructor
    · rintro ⟨hp, hq⟩
      exact ⟨[], [], rfl, hp, by rw [List.append_nil]; exact hq⟩
    · rintro ⟨s, t, hst, hp, hq⟩
      obtain ⟨rfl, rfl⟩ := List.append_eq_nil_iff.1 hst.symm
      rw [List.append_nil] at hq
      exact ⟨hp, hq⟩
  | alt p q ihp ihq => rw [nullable, Bool.or_eq_true, ihp, ihq, matches_alt]
  | many p _ => exact iff_of_true rfl .manyNil
  | atLeastOne p ih =>
    rw [nullable, ih, matches_atLeastOne, matches_seq]
    constructor
    · intro hp
      exact ⟨[], [], rfl, hp, .manyNil⟩
    · rintro ⟨s, t, hst, hp, _⟩
      obtain ⟨rfl, rfl⟩ := List.append_eq_nil_iff.1 hst.symm
      exact hp
  | anchor a => simp [nullable, matches_anchor]

/-- `q` after each of the patterns that a match of `p` goes on as. -/
theorem exists_andThen_after
    (hp : ∀ s rest, Matches p before (c :: s) rest ↔
      ∃ r ∈ p.after before.getLast? c, Matches r (before ++ [c]) s rest) {s : Text} :
    (∃ r ∈ (p.after before.getLast? c).map (·.andThen q), Matches r (before ++ [c]) s rest) ↔
      ∃ s₁ s₂, s = s₁ ++ s₂ ∧ Matches p before (c :: s₁) (s₂ ++ rest) ∧
        Matches q (before ++ c :: s₁) s₂ rest := by
  constructor
  · rintro ⟨_, hr, h⟩
    obtain ⟨r, hmem, rfl⟩ := List.mem_map.1 hr
    obtain ⟨s₁, s₂, rfl, h₁, h₂⟩ := matches_seq.1 (matches_andThen.1 h)
    rw [List.append_assoc] at h₂
    exact ⟨s₁, s₂, rfl, (hp _ _).2 ⟨r, hmem, h₁⟩, h₂⟩
  · rintro ⟨s₁, s₂, rfl, h₁, h₂⟩
    obtain ⟨r, hr, h₁⟩ := (hp _ _).1 h₁
    refine ⟨r.andThen q, List.mem_map_of_mem hr, matches_andThen.2 (matches_seq.2 ?_)⟩
    exact ⟨s₁, s₂, rfl, h₁, by rw [List.append_assoc]; exact h₂⟩

/-- A match that begins with a character goes on as one of the patterns after it. -/
theorem matches_cons {s : Text} :
    Matches p before (c :: s) rest ↔
      ∃ r ∈ p.after before.getLast? c, Matches r (before ++ [c]) s rest := by
  induction p generalizing before s rest with
  | empty => simp [after, matches_empty]
  | oneOf k =>
    rw [matches_oneOf, after]
    split
    · rename_i hk
      simp only [List.cons.injEq, List.mem_singleton, exists_eq_left, matches_empty]
      constructor
      · rintro ⟨d, ⟨_, hs⟩, _⟩
        exact hs
      · intro hs
        exact ⟨c, ⟨rfl, hs⟩, hk⟩
    · rename_i hk
      simp only [List.cons.injEq, List.not_mem_nil, false_and, exists_false, iff_false]
      rintro ⟨d, ⟨rfl, _⟩, hd⟩
      exact hk hd
  | seq p q ihp ihq =>
    simp only [after, List.mem_append, or_and_right, exists_or]
    rw [exists_andThen_after fun _ _ => ihp, matches_seq_cons, ihq, ← nullable_iff,
      List.cons_append, List.head?_cons]
    refine or_congr_right ?_
    split
    · next hnull => exact and_iff_right hnull
    · next hnull => exact iff_of_false (fun h => hnull h.1) (by simp)
  | alt p q ihp ihq =>
    simp only [matches_alt, ihp, ihq, after, List.mem_append, or_and_right, exists_or]
  | many p ih =>
    rw [after, exists_andThen_after fun _ _ => ih, matches_many_cons]
  | atLeastOne p ih =>
    rw [after, exists_andThen_after fun _ _ => ih, matches_atLeastOne, matches_seq_cons]
    -- If the first stretch is empty, the repetition itself begins with the character.
    exact or_iff_left_of_imp fun h => matches_many_cons.1 h.2
  | anchor a => simp [after, matches_anchor]

/-! ### The search -/

/-- A pattern matches a stretch at the beginning of a text. -/
def Starts (p : Pattern) (before s : Text) : Prop :=
  ∃ mid rest, s = mid ++ rest ∧ Matches p before mid rest

theorem starts_nil : p.Starts before [] ↔ p.nullable before.getLast? none = true := by
  have hnull : p.nullable before.getLast? none = true ↔ Matches p before [] [] := by
    rw [← nullable_iff]
    rfl
  rw [hnull]
  constructor
  · rintro ⟨mid, rest, hs, h⟩
    obtain ⟨rfl, rfl⟩ := List.append_eq_nil_iff.1 hs.symm
    exact h
  · intro h
    exact ⟨[], [], rfl, h⟩

theorem starts_cons {s : Text} :
    p.Starts before (c :: s) ↔
      p.nullable before.getLast? (some c) = true ∨
        ∃ r ∈ p.after before.getLast? c, r.Starts (before ++ [c]) s := by
  have hnull : p.nullable before.getLast? (some c) = true ↔ Matches p before [] (c :: s) := by
    rw [← nullable_iff]
    rfl
  rw [hnull]
  constructor
  · rintro ⟨mid, rest, hs, h⟩
    cases mid with
    | nil =>
      have hrest : c :: s = rest := hs
      subst hrest
      exact .inl h
    | cons d mid =>
      obtain ⟨rfl, rfl⟩ := List.cons.inj hs
      obtain ⟨r, hr, h⟩ := matches_cons.1 h
      exact .inr ⟨r, hr, mid, rest, rfl, h⟩
  · rintro (h | ⟨r, hr, mid, rest, rfl, h⟩)
    · exact ⟨[], c :: s, rfl, h⟩
    · exact ⟨c :: mid, rest, rfl, matches_cons.2 ⟨r, hr, h⟩⟩

/-- The search finds the patterns under way at the beginning of the rest of the text, and the
    pattern itself at any place of it. -/
theorem searchFrom_iff {running : List Pattern} {s : Text} :
    p.searchFrom before.getLast? running s = true ↔
      (∃ r ∈ running, r.Starts before s) ∨ ∃ a t, s = a ++ t ∧ p.Starts (before ++ a) t := by
  induction s generalizing before running with
  | nil =>
    simp only [searchFrom, List.any_cons, Bool.or_eq_true, List.any_eq_true, ← starts_nil]
    constructor
    · rintro (h | h)
      · exact .inr ⟨[], [], rfl, by rw [List.append_nil]; exact h⟩
      · exact .inl h
    · rintro (h | ⟨a, t, hs, h⟩)
      · exact .inr h
      · obtain ⟨rfl, rfl⟩ := List.append_eq_nil_iff.1 hs.symm
        rw [List.append_nil] at h
        exact .inl h
  | cons c s ih =>
    have hlast : some c = (before ++ [c]).getLast? := by simp
    have hnow : (∃ r ∈ p :: running, r.Starts before (c :: s)) ↔
        (p :: running).any (nullable before.getLast? (some c)) = true ∨
          ∃ r ∈ distinct ((p :: running).flatMap (after before.getLast? c)),
            r.Starts (before ++ [c]) s := by
      simp only [starts_cons, and_or_left, exists_or, List.any_eq_true, mem_distinct,
        List.mem_flatMap]
      refine or_congr_right ⟨?_, ?_⟩
      · rintro ⟨q, hq, r, hr, h⟩
        exact ⟨r, ⟨q, hq, hr⟩, h⟩
      · rintro ⟨r, ⟨q, hq, hr⟩, h⟩
        exact ⟨q, hq, r, hr, h⟩
    rw [searchFrom, Bool.or_eq_true, hlast, ih, ← hlast, ← or_assoc, ← hnow]
    constructor
    · rintro (⟨r, hr, h⟩ | ⟨a, t, rfl, h⟩)
      · rcases List.mem_cons.1 hr with rfl | hr
        · exact .inr ⟨[], c :: s, rfl, by rw [List.append_nil]; exact h⟩
        · exact .inl ⟨r, hr, h⟩
      · rw [List.append_assoc] at h
        exact .inr ⟨c :: a, t, rfl, h⟩
    · rintro (⟨r, hr, h⟩ | ⟨a, t, hs, h⟩)
      · exact .inl ⟨r, List.mem_cons_of_mem _ hr, h⟩
      · rcases List.cons_eq_append_iff.1 hs with ⟨rfl, rfl⟩ | ⟨a, rfl, rfl⟩
        · rw [List.append_nil] at h
          exact .inl ⟨p, List.mem_cons_self, h⟩
        · exact .inr ⟨a, t, rfl, by rw [List.append_assoc]; exact h⟩

/-- The search finds a pattern exactly if it matches some stretch of the text. -/
theorem search_iff {s : Text} : p.search s = true ↔ p.Occurs s := by
  change p.searchFrom ([] : Text).getLast? [] s = true ↔ _
  rw [searchFrom_iff]
  constructor
  · rintro (⟨r, hr, _⟩ | ⟨a, _, rfl, mid, rest, rfl, h⟩)
    · exact absurd hr List.not_mem_nil
    · exact ⟨a, mid, rest, (List.append_assoc _ _ _).symm, h⟩
  · rintro ⟨a, mid, rest, rfl, h⟩
    exact .inr ⟨a, mid ++ rest, List.append_assoc _ _ _, mid, rest, rfl, h⟩

end Overseer.Pattern
