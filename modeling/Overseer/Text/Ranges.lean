/-! ## Sets of code points

A set of code points is a list of closed ranges in ascending order, so that a search can stop at the
first range that begins behind the code point it looks for. -/

namespace Overseer

/-- Closed ranges of code points in ascending order. -/
abbrev CodeRanges := List (Nat × Nat)

namespace CodeRanges

/-- Whether a code point lies in one of the ranges. -/
def contains : CodeRanges → Nat → Bool
  | [], _ => false
  | (low, high) :: rest, n => if n < low then false else n ≤ high || contains rest n

@[simp] theorem contains_nil (n : Nat) : contains [] n = false := rfl

/-- What is found lies in a range. -/
theorem exists_of_contains {rs : CodeRanges} {n : Nat} (h : rs.contains n = true) :
    ∃ r ∈ rs, r.1 ≤ n ∧ n ≤ r.2 := by
  induction rs with
  | nil => simp at h
  | cons r rest ih =>
    simp only [contains] at h
    split at h
    · simp at h
    · rename_i low
      simp only [Bool.or_eq_true, decide_eq_true_eq] at h
      rcases h with h | h
      · exact ⟨r, List.mem_cons_self, by omega, h⟩
      · obtain ⟨q, hq, hn⟩ := ih h
        exact ⟨q, List.mem_cons_of_mem _ hq, hn⟩

end CodeRanges

end Overseer
