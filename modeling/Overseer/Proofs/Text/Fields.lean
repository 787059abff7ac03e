import Mathlib.Data.List.DropRight
import Overseer.Text.Split

/-! ## Words and lines of written text

Text that is put together from words with spaces between them has exactly these words, and text that
is put together from lines has exactly these lines. -/

namespace Overseer.Text

variable {c : Char} {s t w : Text}

/-! ### Words -/

/-- A word is not empty and has no blank in it. -/
structure IsWord (w : Text) : Prop where
  ne_nil : w ≠ []
  not_blank : ∀ c ∈ w, isBlank c = false

theorem IsWord.of_all (hne : w ≠ []) (h : (w.all fun c => !isBlank c) = true) : IsWord w := by
  refine ⟨hne, fun c hc => ?_⟩
  simpa using List.all_eq_true.1 h c hc

theorem words_append_blank (hc : isBlank c = true) : words (s ++ c :: t) = words s ++ words t := by
  unfold words
  rw [List.splitOnP_append_cons s t hc, List.filter_append]

theorem IsWord.words_eq (h : IsWord w) : words w = [w] := by
  unfold words
  rw [List.splitOnP_eq_singleton h.not_blank]
  simp [h.ne_nil]

/-- The words of words with spaces between them. -/
theorem words_spaced {ws : List Text} (h : ∀ w ∈ ws, IsWord w) : words (spaced ws) = ws := by
  induction ws with
  | nil => rfl
  | cons w ws ih =>
    have hw : IsWord w := h w List.mem_cons_self
    have hws : ∀ v ∈ ws, IsWord v := fun v hv => h v (List.mem_cons_of_mem _ hv)
    unfold spaced at ih ⊢
    cases ws with
    | nil => rw [List.intercalate_singleton, hw.words_eq]
    | cons v ws =>
      have hspace : isBlank ' ' = true := by decide
      rw [List.intercalate_cons_cons, List.append_assoc, List.singleton_append,
        words_append_blank hspace, hw.words_eq, ih hws]
      rfl

theorem mem_spaced {ws : List Text} (h : c ∈ spaced ws) : c = ' ' ∨ ∃ w ∈ ws, c ∈ w := by
  induction ws with
  | nil => cases h
  | cons w ws ih =>
    unfold spaced at ih h
    cases ws with
    | nil =>
      rw [List.intercalate_singleton] at h
      exact .inr ⟨w, List.mem_cons_self, h⟩
    | cons v ws =>
      rw [List.intercalate_cons_cons, List.append_assoc, List.singleton_append] at h
      rcases List.mem_append.1 h with hw | h
      · exact .inr ⟨w, List.mem_cons_self, hw⟩
      rcases List.mem_cons.1 h with rfl | h
      · exact .inl rfl
      · refine (ih h).imp_right ?_
        rintro ⟨u, hu, hc⟩
        exact ⟨u, List.mem_cons_of_mem _ hu, hc⟩

/-! ### Blanks at the ends -/

theorem trimEnd_eq : trimEnd s = s.rdropWhile isBlank := rfl

/-- Trimming adds nothing. -/
theorem trim_subset (s : Text) : s.trim ⊆ s := by
  intro c hc
  unfold trim at hc
  rw [trimEnd_eq] at hc
  exact (List.dropWhile_sublist _).subset ((List.rdropWhile_prefix _ _).subset hc)

/-- It takes nothing off but blanks at the ends. -/
theorem exists_trim (s : Text) :
    ∃ a b, s = a ++ s.trim ++ b ∧ (∀ c ∈ a, isBlank c = true) ∧ ∀ c ∈ b, isBlank c = true := by
  refine ⟨s.takeWhile isBlank, s.trimStart.rtakeWhile isBlank, ?_,
    fun c hc => List.mem_takeWhile_imp hc, fun c hc => List.mem_rtakeWhile_imp hc⟩
  calc s = s.takeWhile isBlank ++ s.trimStart := List.takeWhile_append_dropWhile.symm
    _ = s.takeWhile isBlank ++ (s.trim ++ s.trimStart.rtakeWhile isBlank) := by
      rw [trim, trimEnd_eq, List.rdropWhile_append_rtakeWhile]
    _ = s.takeWhile isBlank ++ s.trim ++ s.trimStart.rtakeWhile isBlank :=
      (List.append_assoc _ _ _).symm

theorem trim_isInfix (s : Text) : s.trim <:+: s := by
  obtain ⟨a, b, hs, -, -⟩ := exists_trim s
  exact ⟨a, b, hs.symm⟩

theorem mem_trim (h : c ∈ s) (hc : isBlank c = false) : c ∈ s.trim := by
  obtain ⟨a, b, hs, ha, hb⟩ := exists_trim s
  rw [hs, List.mem_append, List.mem_append] at h
  rcases h with (h | h) | h
  · simp [ha c h] at hc
  · exact h
  · simp [hb c h] at hc

theorem IsWord.trim_eq (h : IsWord w) : w.trim = w := by
  have hstart : trimStart w = w := by
    refine List.dropWhile_eq_self_iff.2 fun hl => ?_
    simp [h.not_blank _ (List.getElem_mem hl)]
  unfold trim
  rw [hstart, trimEnd_eq, List.rdropWhile_eq_self_iff]
  intro hl
  simp [h.not_blank _ (List.getLast_mem hl)]

/-- Nothing is left of a text exactly if it is all blank. -/
theorem trim_eq_nil_iff : s.trim = [] ↔ ∀ c ∈ s, isBlank c = true := by
  unfold trim trimStart
  rw [trimEnd_eq, List.rdropWhile_eq_nil_iff]
  constructor
  · intro h c hc
    rw [← List.takeWhile_append_dropWhile (p := isBlank) (l := s)] at hc
    rcases List.mem_append.1 hc with hc | hc
    · exact List.mem_takeWhile_imp hc
    · exact h c hc
  · intro h c hc
    exact h c (List.dropWhile_subset _ hc)

theorem words_of_trim_eq_nil (h : s.trim = []) : words s = [] := by
  rw [trim_eq_nil_iff] at h
  induction s with
  | nil => rfl
  | cons c s ih =>
    have hc : isBlank c = true := h c List.mem_cons_self
    rw [← List.nil_append (c :: s), words_append_blank hc, words_nil, List.nil_append]
    exact ih fun d hd => h d (List.mem_cons_of_mem _ hd)

/-! ### Lines -/

theorem dropReturn_eq_self (h : '\r' ∉ s) : dropReturn s = s := by
  unfold dropReturn
  exact if_neg fun hlast => h (List.mem_of_getLast? hlast)

/-- The first line of a text, and the lines of the rest. -/
theorem lines_append_feed (h : '\n' ∉ s) : lines (s ++ '\n' :: t) = dropReturn s :: lines t := by
  obtain ⟨piece, pieces, ht⟩ := List.exists_cons_of_ne_nil (List.splitOn_ne_nil '\n' t)
  unfold lines
  rw [List.splitOn_append_cons_self_of_not_mem h, ht]
  rfl

/-- The lines of lines that were written with their ends. -/
theorem lines_flatMap {ls : List Text} (h : ∀ l ∈ ls, '\n' ∉ l ∧ '\r' ∉ l) :
    lines (ls.flatMap (· ++ ['\n'])) = ls := by
  induction ls with
  | nil => rfl
  | cons l ls ih =>
    obtain ⟨hfeed, hreturn⟩ := h l List.mem_cons_self
    have hls : ∀ k ∈ ls, '\n' ∉ k ∧ '\r' ∉ k := fun k hk => h k (List.mem_cons_of_mem _ hk)
    rw [List.flatMap_cons, List.append_assoc, List.singleton_append, lines_append_feed hfeed,
      dropReturn_eq_self hreturn, ih hls]

end Overseer.Text
