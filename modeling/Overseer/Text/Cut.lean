import Overseer.Text.Blank

/-! ## Cutting at byte offsets

Places in a text may be given as offsets into its UTF-8 form. A text can be cut at such a place
unless it lies inside a character or behind the end. -/

namespace Overseer.Text

/-- What stands before a byte offset and what follows it. -/
def cutAt? : Nat → Text → Option (Text × Text)
  | 0, s => some ([], s)
  | _ + 1, [] => none
  | n + 1, c :: s =>
    if c.utf8Size ≤ n + 1 then
      (cutAt? (n + 1 - c.utf8Size) s).map fun (before, rest) => (c :: before, rest)
    else none

/-- The text between two byte offsets. -/
def slice? (s : Text) (first last : Nat) : Option Text :=
  match cutAt? first s with
  | none => none
  | some (_, rest) => (cutAt? (last - first) rest).map (·.1)

@[simp] theorem cutAt?_zero (s : Text) : cutAt? 0 s = some ([], s) := by cases s <;> rfl

/-- A cut loses nothing. -/
theorem append_of_cutAt? {n : Nat} {s before rest : Text} (h : cutAt? n s = some (before, rest)) :
    before ++ rest = s := by
  induction s generalizing n before with
  | nil =>
    cases n with
    | zero => simp_all [cutAt?]
    | succ n => simp [cutAt?] at h
  | cons c s ih =>
    cases n with
    | zero => simp_all [cutAt?]
    | succ n =>
      simp only [cutAt?] at h
      split at h
      · simp only [Option.map_eq_some_iff, Prod.mk.injEq] at h
        obtain ⟨⟨b, r⟩, hb, rfl, rfl⟩ := h
        simp [ih hb]
      · simp at h

end Overseer.Text
