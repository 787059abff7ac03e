import Overseer.Json.Value
import Overseer.Proofs.Text.Numeral

/-! ## Telling written values apart

A way of writing is readable if what was written shows where it ends and what it stands for. A
numeral is readable only if no digit follows it, and the items of an array only if no comma does. -/

namespace Overseer

namespace Text

/-- What is written shows where it ends and what it stands for, whatever follows it, if only that
    meets `ends`. -/
def Readable {α : Type} (ends : Text → Prop) (write : α → Text) : Prop :=
  ∀ ⦃a b : α⦄ ⦃x y : Text⦄, ends x → ends y → write a ++ x = write b ++ y → a = b ∧ x = y

/-! ### Numerals -/

/-- The text does not go on with a digit. -/
def StopsDigits (x : Text) : Prop := ∀ c ∈ x.head?, c.isDigit = false

theorem takeWhile_isDigit {n : Nat} {x : Text} (hx : StopsDigits x) :
    (Numeral.write n ++ x).takeWhile Char.isDigit = Numeral.write n := by
  have hdigits : ∀ c ∈ Numeral.write n, c.isDigit = true :=
    fun c hc => Numeral.isDigit_of_mem_write hc
  have hrest : x.takeWhile Char.isDigit = [] := by
    cases x with
    | nil => rfl
    | cons c x => simp [hx c rfl]
  rw [List.takeWhile_append_of_pos hdigits, hrest, List.append_nil]

theorem readable_numeral : Readable StopsDigits Numeral.write := by
  intro n m x y hx hy h
  have hdigits := congrArg (List.takeWhile Char.isDigit) h
  rw [takeWhile_isDigit hx, takeWhile_isDigit hy] at hdigits
  refine ⟨?_, ?_⟩
  · rw [← Numeral.value_write (n := n), hdigits, Numeral.value_write]
  · rw [hdigits] at h
    exact List.append_cancel_left h

theorem stopsDigits_comma {x : Text} : StopsDigits (',' :: x) := by
  simp [StopsDigits]

end Text

namespace Json

open Text (Readable)

variable {α : Type} {l : Layout} {d : Nat}

/-! ### Strings -/

/-- Strings without characters that are escaped. -/
def Plain (w : Text) : Prop := ∀ c ∈ w, escapeChar c = [c]

instance (w : Text) : Decidable (Plain w) := List.decidableBAll (fun c => escapeChar c = [c]) w

theorem Plain.writeString_eq {w : Text} (h : Plain w) : writeString w = '"' :: (w ++ ['"']) := by
  have hescape : w.flatMap escapeChar = w := by
    induction w with
    | nil => rfl
    | cons c w ih =>
      simp only [Plain, List.mem_cons, forall_eq_or_imp] at h
      simp [h.1, ih h.2]
  rw [writeString, hescape, List.cons_append]

/-- The quote at the end is the first one. -/
theorem Plain.takeWhile_append {w : Text} (h : Plain w) (x : Text) :
    (w ++ '"' :: x).takeWhile (· != '"') = w := by
  have hquote : ∀ c ∈ w, (c != '"') = true := by
    intro c hc
    have hne : c ≠ '"' := by
      rintro rfl
      cases h _ hc
    simpa using hne
  simp [List.takeWhile_append_of_pos hquote]

theorem readable_plain {toText : α → Text} (hplain : ∀ a, Plain (toText a))
    (hinj : ∀ ⦃a b⦄, toText a = toText b → a = b) :
    Readable (fun _ => True) fun a => writeString (toText a) := by
  intro a b x y _ _ heq
  simp only [(hplain _).writeString_eq, List.cons_append, List.append_assoc, List.nil_append,
    List.cons.injEq, true_and] at heq
  have htext := congrArg (List.takeWhile (· != '"')) heq
  rw [(hplain a).takeWhile_append, (hplain b).takeWhile_append] at htext
  cases hinj htext
  simpa using heq

/-! ### Arrays -/

/-- The items of an array can be told from what follows them. -/
theorem readable_items {toValue : α → Value}
    (h : Readable (fun _ => True) fun a => (toValue a).render l d) :
    Readable (fun x => x.head? ≠ some ',') fun as : List α => renderItems l d (as.map toValue) := by
  intro as bs x y hx hy heq
  induction as generalizing bs with
  | nil =>
    cases bs with
    | nil => exact ⟨rfl, heq⟩
    | cons b bs =>
      simp only [List.map_nil, List.map_cons, renderItems, List.nil_append] at heq
      exact absurd (by rw [heq]; rfl) hx
  | cons a as ih =>
    cases bs with
    | nil =>
      simp only [List.map_nil, List.map_cons, renderItems, List.nil_append] at heq
      exact absurd (by rw [← heq]; rfl) hy
    | cons b bs =>
      simp only [List.map_cons, renderItems, List.cons_append, List.append_assoc, List.cons.injEq,
        true_and, List.append_cancel_left_eq] at heq
      obtain ⟨rfl, hrest⟩ := h trivial trivial heq
      obtain ⟨rfl, hxy⟩ := ih hrest
      exact ⟨rfl, hxy⟩

/-- What follows the items of an array does not go on with an item. -/
theorem head_lineBreak_close {x : Text} : (l.lineBreak d ++ ']' :: x).head? ≠ some ',' := by
  cases l <;> simp [Layout.lineBreak]

/-- An item that is an object is not taken for the end of the array. -/
theorem lineBreak_object_ne_close {t x y : Text} (h : t.head? = some '{') :
    l.lineBreak d ++ (t ++ x) ≠ ']' :: y := by
  cases t with
  | nil => cases h
  | cons c t =>
    cases h
    cases l <;> simp [Layout.lineBreak]

/-- Arrays of objects can be told from what follows them. -/
theorem readable_array {toValue : α → Value}
    (h : Readable (fun _ => True) fun a => (toValue a).render l (d + 1))
    (object : ∀ a, ((toValue a).render l (d + 1)).head? = some '{') :
    Readable (fun _ => True) fun as : List α => (Value.array (as.map toValue)).render l d := by
  intro as bs x y _ _ heq
  cases as with
  | nil =>
    cases bs with
    | nil =>
      simp only [List.map_nil, Value.render, List.append_cancel_left_eq] at heq
      exact ⟨rfl, heq⟩
    | cons b bs =>
      simp only [List.map_nil, List.map_cons, Value.render, List.append_assoc, List.cons_append,
        List.nil_append, List.cons.injEq, true_and] at heq
      exact absurd heq.symm (lineBreak_object_ne_close (object b))
  | cons a as =>
    cases bs with
    | nil =>
      simp only [List.map_nil, List.map_cons, Value.render, List.append_assoc, List.cons_append,
        List.nil_append, List.cons.injEq, true_and] at heq
      exact absurd heq (lineBreak_object_ne_close (object a))
    | cons b bs =>
      simp only [List.map_cons, Value.render, List.append_assoc, List.cons_append,
        List.nil_append, List.cons.injEq, true_and, List.append_cancel_left_eq] at heq
      obtain ⟨rfl, hitems⟩ := h trivial trivial heq
      obtain ⟨rfl, hrest⟩ := readable_items h head_lineBreak_close head_lineBreak_close hitems
      refine ⟨rfl, ?_⟩
      simpa using hrest

end Json

end Overseer
