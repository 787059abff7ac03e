import Overseer.Proofs.Text.Fields

/-! ## The layout of a text

How a text is laid out, said without cutting it: `Fields` builds a text from words with blanks around
them, `IsLines` builds it from lines with their ends. `words_eq_iff` and `lines_eq_iff` say that
cutting a text gives exactly what it can be built from. -/

namespace Overseer.Text

variable {a b s t w l : Text} {ws ls : List Text} {c : Char}

/-! ### Words and blanks -/

/-- `Fields s ws` when the text is the words `ws`, in their order, with blanks between neighbours and
    perhaps at the ends. -/
inductive Fields : Text → List Text → Prop
  | blank {b : Text} (blank : ∀ c ∈ b, isBlank c = true) : Fields b []
  /-- The text ends with its last word. -/
  | last {a w : Text} (blank : ∀ c ∈ a, isBlank c = true) (word : IsWord w) : Fields (a ++ w) [w]
  | cons {a w s : Text} {c : Char} {ws : List Text} (blank : ∀ c ∈ a, isBlank c = true)
      (word : IsWord w) (gap : isBlank c = true) (rest : Fields s ws) :
      Fields (a ++ (w ++ c :: s)) (w :: ws)

theorem words_of_blank (h : ∀ c ∈ b, isBlank c = true) : words b = [] :=
  words_of_trim_eq_nil (trim_eq_nil_iff.2 h)

theorem words_blank_append (h : ∀ c ∈ a, isBlank c = true) : words (a ++ s) = words s := by
  induction a with
  | nil => rfl
  | cons c a ih =>
    have hc : isBlank c = true := h c List.mem_cons_self
    rw [List.cons_append, ← List.nil_append (c :: (a ++ s)), words_append_blank hc, words_nil,
      List.nil_append]
    exact ih fun d hd => h d (List.mem_cons_of_mem _ hd)

theorem Fields.words_eq (h : Fields s ws) : words s = ws := by
  induction h with
  | blank blank => exact words_of_blank blank
  | last blank word => rw [words_blank_append blank, word.words_eq]
  | cons blank word gap _ ih =>
    rw [words_blank_append blank, words_append_blank gap, word.words_eq, ih]
    rfl

/-- A text is its words. The induction is on its length, because a whole word and the blanks around
    it come off at a time. -/
theorem fields_words (s : Text) : Fields s (words s) := by
  induction hn : s.length using Nat.strong_induction_on generalizing s with
  | _ n ih =>
    obtain ⟨a, r, rfl, ha, hr⟩ : ∃ a r, s = a ++ r ∧ (∀ c ∈ a, isBlank c = true) ∧
        ∀ c, r.head? = some c → isBlank c = false := by
      refine ⟨s.takeWhile isBlank, s.dropWhile isBlank, List.takeWhile_append_dropWhile.symm,
        fun c hc => List.mem_takeWhile_imp hc, fun c hc => ?_⟩
      simpa [hc] using List.head?_dropWhile_not isBlank s
    rw [words_blank_append ha]
    obtain ⟨w, t, rfl, hw, ht⟩ : ∃ w t, r = w ++ t ∧ (∀ c ∈ w, isBlank c = false) ∧
        ∀ c, t.head? = some c → isBlank c = true := by
      refine ⟨r.takeWhile (!isBlank ·), r.dropWhile (!isBlank ·),
        List.takeWhile_append_dropWhile.symm,
        fun c hc => by simpa using List.mem_takeWhile_imp hc, fun c hc => ?_⟩
      simpa [hc] using List.head?_dropWhile_not (!isBlank ·) r
    cases w with
    | nil =>
      cases t with
      | nil => simpa using Fields.blank ha
      | cons c t => exact absurd (ht c rfl) (by simp [hr c rfl])
    | cons d w =>
      have hword : IsWord (d :: w) := ⟨List.cons_ne_nil d w, hw⟩
      cases t with
      | nil =>
        rw [List.append_nil, hword.words_eq]
        exact .last ha hword
      | cons c t =>
        have hc : isBlank c = true := ht c rfl
        rw [words_append_blank hc, hword.words_eq]
        refine .cons ha hword hc (ih t.length ?_ t rfl)
        rw [← hn]
        simp only [List.length_append, List.length_cons]
        omega

/-- The words of a text are what it is built from. -/
theorem words_eq_iff : words s = ws ↔ Fields s ws := by
  constructor
  · rintro rfl
    exact fields_words s
  · exact Fields.words_eq

theorem Fields.unique {vs : List Text} (h : Fields s ws) (h' : Fields s vs) : ws = vs :=
  h.words_eq.symm.trans h'.words_eq

theorem trim_eq_nil_iff_fields : s.trim = [] ↔ Fields s [] := by
  rw [trim_eq_nil_iff]
  constructor
  · exact .blank
  · intro h
    cases h with
    | blank blank => exact blank

/-- Blanks behind a text are taken off. -/
theorem trim_append_blank (h : isBlank c = true) : trim (s ++ [c]) = trim s := by
  by_cases hs : ∀ d ∈ s, isBlank d = true
  · rw [trim_eq_nil_iff.2 hs, trim_eq_nil_iff]
    intro d hd
    rcases List.mem_append.1 hd with hd | hd
    · exact hs d hd
    · rwa [List.mem_singleton.1 hd]
  · push Not at hs
    obtain ⟨d, hd, hdb⟩ := hs
    have hstart : trimStart (s ++ [c]) = trimStart s ++ [c] := by
      unfold trimStart
      rw [List.dropWhile_append, if_neg]
      rw [List.isEmpty_iff, List.dropWhile_eq_nil_iff]
      exact fun hall => hdb (hall d hd)
    unfold trim
    rw [hstart, trimEnd_eq, trimEnd_eq, List.rdropWhile_concat_pos _ _ _ h]

/-! ### Lines -/

/-- `IsLines s ls` when the text is the lines `ls`, in their order, each with its end: a line feed, or
    a carriage return and a line feed. The last line may have no end unless it is empty. -/
inductive IsLines : Text → List Text → Prop
  | nil : IsLines [] []
  | last {l : Text} (nonempty : l ≠ []) (single : '\n' ∉ l) : IsLines l [l]
  | feed {l s : Text} {ls : List Text} (single : '\n' ∉ l) (bare : l.getLast? ≠ some '\r')
      (rest : IsLines s ls) : IsLines (l ++ '\n' :: s) (l :: ls)
  | returnFeed {l s : Text} {ls : List Text} (single : '\n' ∉ l) (rest : IsLines s ls) :
      IsLines (l ++ '\r' :: '\n' :: s) (l :: ls)

theorem dropReturn_append_return : dropReturn (s ++ ['\r']) = s := by
  simp [dropReturn]

theorem dropReturn_of_ne (h : s.getLast? ≠ some '\r') : dropReturn s = s := if_neg h

theorem lines_of_single (h : '\n' ∉ l) (hne : l ≠ []) : lines l = [l] := by
  unfold lines
  rw [List.splitOn_eq_singleton h]
  simp [hne]

theorem not_mem_append_return (h : '\n' ∉ l) : '\n' ∉ l ++ ['\r'] := by
  simpa using h

theorem IsLines.lines_eq (h : IsLines s ls) : lines s = ls := by
  induction h with
  | nil => rfl
  | last nonempty single => exact lines_of_single single nonempty
  | feed single bare _ ih => rw [lines_append_feed single, dropReturn_of_ne bare, ih]
  | @returnFeed l s ls single _ ih =>
    rw [← List.singleton_append (l := '\n' :: s), ← List.append_assoc,
      lines_append_feed (not_mem_append_return single), dropReturn_append_return, ih]

/-- A piece up to a line feed is a line with its end. -/
theorem IsLines.cons (single : '\n' ∉ l) (rest : IsLines s ls) :
    IsLines (l ++ '\n' :: s) (dropReturn l :: ls) := by
  by_cases hlast : l.getLast? = some '\r'
  · obtain ⟨k, rfl⟩ := List.getLast?_eq_some_iff.1 hlast
    rw [dropReturn_append_return, List.append_assoc, List.singleton_append]
    exact .returnFeed (fun h => single (List.mem_append_left _ h)) rest
  · rw [dropReturn_of_ne hlast]
    exact .feed single hlast rest

/-- A text is its lines, by induction on its length. -/
theorem isLines_lines (s : Text) : IsLines s (lines s) := by
  induction hn : s.length using Nat.strong_induction_on generalizing s with
  | _ n ih =>
    by_cases hfeed : '\n' ∈ s
    · obtain ⟨l, t, rfl, hl⟩ := List.eq_append_cons_of_mem hfeed
      rw [lines_append_feed hl]
      refine .cons hl (ih t.length ?_ t rfl)
      rw [← hn, List.length_append, List.length_cons]
      omega
    · by_cases hs : s = []
      · subst hs
        exact .nil
      · rw [lines_of_single hfeed hs]
        exact .last hs hfeed

/-- The lines of a text are what it is built from. -/
theorem lines_eq_iff : lines s = ls ↔ IsLines s ls := by
  constructor
  · rintro rfl
    exact isLines_lines s
  · exact IsLines.lines_eq

/-- A carriage return more before a line feed makes at most one line longer, and only by a carriage
    return at its end. -/
theorem lines_insert_return (s t : Text) :
    ∃ (before after : List Text) (l : Text),
      lines (s ++ '\n' :: t) = before ++ dropReturn l :: after ∧
      lines (s ++ '\r' :: '\n' :: t) = before ++ l :: after := by
  induction hn : s.length using Nat.strong_induction_on generalizing s with
  | _ n ih =>
    by_cases hfeed : '\n' ∈ s
    · obtain ⟨k, u, rfl, hk⟩ := List.eq_append_cons_of_mem hfeed
      have hu : u.length < n := by
        rw [← hn, List.length_append, List.length_cons]
        omega
      obtain ⟨before, after, l, hshort, hlong⟩ := ih u.length hu u rfl
      refine ⟨dropReturn k :: before, after, l, ?_, ?_⟩
      · rw [List.append_assoc, List.cons_append, lines_append_feed hk, hshort, List.cons_append]
      · rw [List.append_assoc, List.cons_append, lines_append_feed hk, hlong, List.cons_append]
    · refine ⟨[], lines t, s, lines_append_feed hfeed, ?_⟩
      rw [← List.singleton_append (l := '\n' :: t), ← List.append_assoc,
        lines_append_feed (not_mem_append_return hfeed), dropReturn_append_return]
      rfl

end Overseer.Text
