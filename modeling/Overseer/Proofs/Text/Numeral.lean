import Overseer.Text.Numeral

/-! ## Reading numerals

`read_eq_ok_iff` says which texts are numerals below a bound and what their value is. A value never
falls while digits are read, so it is enough to look at the bound at the end. -/

namespace Overseer.Numeral

variable {bound n m : Nat} {c : Char} {s : Text}

/-! ### Digits -/

theorem digit?_eq_if : digit? c = if c.isDigit then some (c.toNat - '0'.toNat) else none := by
  unfold digit? Char.isDigit
  congr 1
  simp only [Bool.and_eq_true, decide_eq_true_eq, ge_iff_le, eq_iff_iff]
  exact Iff.rfl

theorem push_of_not_isDigit (h : c.isDigit = false) :
    push bound n c = .error .invalidDigit := by
  unfold push
  rw [digit?_eq_if, h]
  rfl

theorem push_of_isDigit (h : c.isDigit = true) :
    push bound n c =
      if 10 * n + (c.toNat - '0'.toNat) < bound then .ok (10 * n + (c.toNat - '0'.toNat))
      else .error .tooLarge := by
  unfold push
  rw [digit?_eq_if, h]
  rfl

theorem le_ofDigitChars : n ≤ Nat.ofDigitChars 10 s n := by
  induction s generalizing n with
  | nil => simp
  | cons c s ih =>
    rw [Nat.ofDigitChars_cons]
    exact Nat.le_trans (by omega) ih

theorem readDigits_eq_ok_iff (hn : n < bound) :
    readDigits bound n s = .ok m ↔
      (∀ c ∈ s, c.isDigit = true) ∧ Nat.ofDigitChars 10 s n = m ∧ m < bound := by
  induction s generalizing n with
  | nil =>
    simp only [readDigits, Except.ok.injEq, List.not_mem_nil, false_implies, implies_true,
      Nat.ofDigitChars_nil, true_and]
    exact ⟨fun h => ⟨h, h ▸ hn⟩, fun h => h.1⟩
  | cons c s ih =>
    rw [readDigits, Nat.ofDigitChars_cons]
    cases hc : c.isDigit with
    | false =>
      rw [push_of_not_isDigit hc]
      exact iff_of_false nofun fun h => by simp [hc] at h
    | true =>
      rw [push_of_isDigit hc]
      by_cases hlt : 10 * n + (c.toNat - '0'.toNat) < bound
      · rw [if_pos hlt]
        simpa [hc] using ih hlt
      · rw [if_neg hlt]
        refine iff_of_false nofun ?_
        rintro ⟨_, rfl, hm⟩
        exact hlt (Nat.lt_of_le_of_lt le_ofDigitChars hm)

/-! ### Numerals -/

theorem read_plus (h : s ≠ []) : read bound ('+' :: s) = readDigits bound 0 s := by
  cases s with
  | nil => exact absurd rfl h
  | cons c s => rfl

theorem read_of_isDigit (hc : c.isDigit = true) :
    read bound (c :: s) = readDigits bound 0 (c :: s) := by
  unfold read
  split
  · next h => cases h
  · next h => cases h; cases hc
  · next h => cases h; cases hc
  · rfl

/-- A numeral is a run of digits, with a plus sign before it or not, whose value is below the
    bound. -/
theorem read_eq_ok_iff (hb : 0 < bound) :
    read bound s = .ok n ↔
      ∃ ds, (s = ds ∨ s = '+' :: ds) ∧ ds ≠ [] ∧ (∀ c ∈ ds, c.isDigit = true) ∧
        value ds = n ∧ n < bound := by
  have hdigits : ∀ ds, readDigits bound 0 ds = .ok n ↔
      (∀ c ∈ ds, c.isDigit = true) ∧ value ds = n ∧ n < bound := fun ds => readDigits_eq_ok_iff hb
  constructor
  · intro h
    unfold read at h
    split at h
    · cases h
    · cases h
    · next s hne =>
      exact ⟨s, .inr rfl, fun hs => hne (by rw [hs]), (hdigits s).1 h⟩
    · next hne _ _ => exact ⟨s, .inl rfl, hne, (hdigits s).1 h⟩
  · rintro ⟨ds, hs, hne, hall⟩
    rcases hs with rfl | rfl
    · cases s with
      | nil => exact absurd rfl hne
      | cons c s =>
        rw [read_of_isDigit (hall.1 c List.mem_cons_self)]
        exact (hdigits _).2 hall
    · rw [read_plus hne]
      exact (hdigits ds).2 hall

theorem read32?_eq_some_iff :
    read32? s = some n ↔
      ∃ ds, (s = ds ∨ s = '+' :: ds) ∧ ds ≠ [] ∧ (∀ c ∈ ds, c.isDigit = true) ∧
        value ds = n ∧ n < 0x100000000 := by
  rw [← read_eq_ok_iff (by decide)]
  unfold read32?
  cases read 0x100000000 s <;> simp [Except.toOption]

/-! ### Written numbers -/

theorem write_ne_nil : write n ≠ [] := Nat.toDigits_ne_nil

theorem isDigit_of_mem_write (h : c ∈ write n) : c.isDigit = true :=
  Nat.isDigit_of_mem_toDigits (by decide) (by decide) h

theorem value_write : value (write n) = n := Nat.ofDigitChars_ten_toDigits

/-- What is written is read back. -/
theorem read32?_write (h : n < 0x100000000) : read32? (write n) = some n :=
  read32?_eq_some_iff.2
    ⟨write n, .inl rfl, write_ne_nil, fun _ => isDigit_of_mem_write, value_write, h⟩

end Overseer.Numeral
