import Overseer.Proofs.Text.Fields
import Overseer.Proofs.Text.Utf8Cut

/-! ## The size of a decoded text

Decoding makes at most three bytes of each, as U+FFFD takes three bytes and no other character takes
more than it is decoded from. Bytes that begin no sequence are all replaced, so there is no smaller
factor. -/

namespace Overseer.Utf8

variable {s : Text} {out : List Char} {n : Nat} {b : UInt8} {bytes : Bytes}

/-! ### Sizes of texts -/

theorem size_cons (c : Char) (s : Text) : size (c :: s) = c.utf8Size + size s := by
  unfold size encode
  rw [List.flatMap_cons, List.length_append, String.length_utf8EncodeChar]

theorem size_append (s t : Text) : size (s ++ t) = size s + size t := by
  rw [size, encode_append, List.length_append, size, size]

theorem size_reverse (s : Text) : size s.reverse = size s := by
  induction s with
  | nil => rfl
  | cons c s ih =>
    have hlast : size [c] = c.utf8Size := size_cons c []
    rw [List.reverse_cons, size_append, ih, hlast, size_cons, Nat.add_comm]

theorem size_replicate (n : Nat) (c : Char) : size (List.replicate n c) = n * c.utf8Size := by
  induction n with
  | zero => exact (Nat.zero_mul _).symm
  | succ n ih => rw [List.replicate_succ, size_cons, ih, Nat.succ_mul, Nat.add_comm]

theorem utf8Size_replacement : replacement.utf8Size = 3 := by decide

/-- Trimming makes no text larger. -/
theorem size_trim_le (s : Text) : size s.trim ≤ size s := by
  obtain ⟨a, b, hs, -, -⟩ := Text.exists_trim s
  have hsize := congrArg size hs
  rw [size_append, size_append] at hsize
  omega

/-! ### The decoder -/

/-- Of `n` bytes the decoder has made no more than three each. A sequence that is open may still be
    replaced. -/
def State.Within (n : Nat) (s : State) : Prop :=
  size s.out + (if s.open?.isSome then 3 else 0) ≤ 3 * n

theorem within_begin (h : size out ≤ 3 * n) (b : UInt8) : (State.begin out b).Within (n + 1) := by
  unfold State.begin State.Within
  obtain ⟨c, hlead, hc⟩ | ⟨p, hlead, -⟩ | hlead := lead_cases b
  · have hone : c.utf8Size = 1 := by
      rw [← String.length_utf8EncodeChar, hc, List.length_singleton]
    simp only [hlead, size_cons, hone, Option.isSome_none, Bool.false_eq_true, if_false]
    omega
  · simp only [hlead, Option.isSome_some, if_true]
    omega
  · simp only [hlead, size_cons, utf8Size_replacement, Option.isSome_none, Bool.false_eq_true,
      if_false]
    omega

theorem State.Within.feed {s : State} (h : s.Within n) (b : UInt8) : (s.feed b).Within (n + 1) := by
  obtain ⟨open?, out⟩ := s
  unfold State.feed
  cases open? with
  | none => exact within_begin h b
  | some p =>
    have hopen : size out + 3 ≤ 3 * n := h
    dsimp only
    split
    · cases p.more with
      | zero =>
        -- No character takes more than four bytes, and three were put aside for this one.
        have hchar := Char.utf8Size_le_four (Char.ofNat (64 * p.bits + (b.toNat - 0x80)))
        simp only [State.Within, size_cons, Option.isSome_none, Bool.false_eq_true, if_false]
        omega
      | succ more =>
        simp only [State.Within, Option.isSome_some, if_true]
        omega
    · refine within_begin ?_ b
      rw [size_cons, utf8Size_replacement]
      omega

theorem State.Within.foldl {s : State} (h : s.Within n) (bytes : Bytes) :
    (bytes.foldl State.feed s).Within (n + bytes.length) := by
  induction bytes generalizing s n with
  | nil => exact h
  | cons b bytes ih =>
    rw [List.length_cons, ← Nat.add_assoc, Nat.add_right_comm]
    exact ih (h.feed b)

theorem State.Within.finish {s : State} (h : s.Within n) : size s.finish ≤ 3 * n := by
  obtain ⟨open?, out⟩ := s
  unfold State.finish
  cases open? with
  | none =>
    rw [size_reverse]
    exact h
  | some p =>
    rw [size_reverse, size_cons, utf8Size_replacement, Nat.add_comm]
    exact h

/-- Decoding makes at most three bytes of each. -/
theorem size_decode_le (bytes : Bytes) : size (decode bytes) ≤ 3 * bytes.length := by
  have hstart : State.start.Within 0 := Nat.le_refl 0
  have hread := (hstart.foldl bytes).finish
  rwa [Nat.zero_add] at hread

/-- It does make three of each byte that begins no sequence. -/
theorem decode_replicate (h : lead b = .invalid) (n : Nat) :
    decode (List.replicate n b) = List.replicate n replacement := by
  unfold decode State.start
  rw [feed_stray fun d hd => (List.eq_of_mem_replicate hd) ▸ h]
  simp [State.finish]

end Overseer.Utf8
