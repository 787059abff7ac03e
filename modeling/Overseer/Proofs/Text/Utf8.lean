import Overseer.Text.Utf8

/-! ## Decoding what was encoded

An encoded text is decoded to itself. The decoder goes through the bytes of one character from
between two sequences to between two sequences, so the text is read character by character.
Bytes in which nothing is replaced are those of the text they are decoded to. -/

namespace Overseer.Utf8

variable {out : List Char} {n k : Nat}

/-! ### Bytes -/

theorem toNat_ofNat (h : n < 256) : (UInt8.ofNat n).toNat = n := by
  simp [UInt8.toNat_ofNat', Nat.mod_eq_of_lt h]

/-- An ASCII byte is a character. -/
theorem lead_one (h : n < 0x80) : lead (UInt8.ofNat n) = .char (Char.ofNat n) := by
  have hbyte : (UInt8.ofNat n).toNat = n := toNat_ofNat (by omega)
  have hlow : UInt8.ofNat n < 0x80 := by
    rw [UInt8.lt_iff_toNat_lt, hbyte]
    exact h
  simp only [lead, hbyte, hlow, if_true]

theorem lead_two : ∀ a < 32, 2 ≤ a →
    lead (UInt8.ofNat (a + 0xC0)) = .opens ⟨a, 0x80, 0xBF, 0⟩ := by decide

/-- The first byte of three; some ranges of the second keep out overlong forms and surrogates. -/
theorem lead_three : ∀ a < 16, lead (UInt8.ofNat (a + 0xE0)) =
    .opens ⟨a, if a = 0 then 0xA0 else 0x80, if a = 13 then 0x9F else 0xBF, 1⟩ := by decide

theorem lead_four : ∀ a < 5, lead (UInt8.ofNat (a + 0xF0)) =
    .opens ⟨a, if a = 0 then 0x90 else 0x80, if a = 4 then 0x8F else 0xBF, 2⟩ := by decide

/-! ### Steps of the decoder -/

theorem feed_lead {p : Partial} {b : UInt8} (h : lead b = .opens p) :
    State.feed ⟨none, out⟩ b = ⟨some p, out⟩ := by
  simp only [State.feed, State.begin, h]

/-- A byte that continues a sequence. -/
theorem feed_tail {p : Partial} (h : k < 64) (low : p.low.toNat ≤ k + 0x80)
    (high : k + 0x80 ≤ p.high.toNat) :
    State.feed ⟨some p, out⟩ (UInt8.ofNat (k + 0x80)) =
      match p.more with
      | 0 => ⟨none, Char.ofNat (64 * p.bits + k) :: out⟩
      | more + 1 => ⟨some ⟨64 * p.bits + k, 0x80, 0xBF, more⟩, out⟩ := by
  have hbyte : (UInt8.ofNat (k + 0x80)).toNat = k + 0x80 := toNat_ofNat (by omega)
  have hrange : p.low ≤ UInt8.ofNat (k + 0x80) ∧ UInt8.ofNat (k + 0x80) ≤ p.high := by
    simp only [UInt8.le_iff_toNat_le, hbyte]
    exact ⟨low, high⟩
  cases hmore : p.more <;>
    simp only [State.feed, hrange, and_self, if_true, hbyte, Nat.add_sub_cancel, hmore]

/-- The last byte of a sequence. -/
theorem feed_last {bits : Nat} (h : k < 64) :
    State.feed ⟨some ⟨bits, 0x80, 0xBF, 0⟩, out⟩ (UInt8.ofNat (k + 0x80)) =
      ⟨none, Char.ofNat (64 * bits + k) :: out⟩ := by
  have high : k + 0x80 ≤ 0xBF := by omega
  exact feed_tail (p := ⟨bits, 0x80, 0xBF, 0⟩) h (Nat.le_add_left _ _) high

/-- A byte in the middle of a sequence. -/
theorem feed_more {bits more : Nat} (h : k < 64) :
    State.feed ⟨some ⟨bits, 0x80, 0xBF, more + 1⟩, out⟩ (UInt8.ofNat (k + 0x80)) =
      ⟨some ⟨64 * bits + k, 0x80, 0xBF, more⟩, out⟩ := by
  have high : k + 0x80 ≤ 0xBF := by omega
  exact feed_tail (p := ⟨bits, 0x80, 0xBF, more + 1⟩) h (Nat.le_add_left _ _) high

/-- The second byte of three. -/
theorem feed_second_of_three {a : Nat} (h : k < 64) (overlong : a = 0 → 32 ≤ k)
    (surrogate : a = 13 → k < 32) :
    State.feed ⟨some ⟨a, if a = 0 then 0xA0 else 0x80, if a = 13 then 0x9F else 0xBF, 1⟩, out⟩
        (UInt8.ofNat (k + 0x80)) = ⟨some ⟨64 * a + k, 0x80, 0xBF, 0⟩, out⟩ := by
  refine feed_tail (p := ⟨a, _, _, 1⟩) h ?_ ?_
  · dsimp only
    split
    · next ha => exact Nat.add_le_add_right (overlong ha) 0x80
    · exact Nat.le_add_left _ _
  · dsimp only
    split
    · next ha => exact Nat.add_le_add_right (Nat.le_of_lt_succ (surrogate ha)) 0x80
    · exact Nat.add_le_add_right (Nat.le_of_lt_succ h) 0x80

/-- The second byte of four. -/
theorem feed_second_of_four {a : Nat} (h : k < 64) (overlong : a = 0 → 16 ≤ k)
    (tooLarge : a = 4 → k < 16) :
    State.feed ⟨some ⟨a, if a = 0 then 0x90 else 0x80, if a = 4 then 0x8F else 0xBF, 2⟩, out⟩
        (UInt8.ofNat (k + 0x80)) = ⟨some ⟨64 * a + k, 0x80, 0xBF, 1⟩, out⟩ := by
  refine feed_tail (p := ⟨a, _, _, 2⟩) h ?_ ?_
  · dsimp only
    split
    · next ha => exact Nat.add_le_add_right (overlong ha) 0x80
    · exact Nat.le_add_left _ _
  · dsimp only
    split
    · next ha => exact Nat.add_le_add_right (Nat.le_of_lt_succ (tooLarge ha)) 0x80
    · exact Nat.add_le_add_right (Nat.le_of_lt_succ h) 0x80

/-! ### Texts -/

/-- The bytes of a character are decoded to it. -/
theorem feed_encodeChar (c : Char) :
    (String.utf8EncodeChar c).foldl State.feed ⟨none, out⟩ = ⟨none, c :: out⟩ := by
  have hvalid : c.val.toNat < 0xD800 ∨ 0xDFFF < c.val.toNat ∧ c.val.toNat < 0x110000 := c.valid
  have hc : Char.ofNat c.val.toNat = c := Char.ofNat_toNat c
  unfold String.utf8EncodeChar
  generalize c.val.toNat = v at hvalid hc
  -- One case for each number of bytes; the bits of the bytes add up to the character.
  dsimp only
  split
  · next hone =>
    have hlead := lead_one (Nat.lt_succ_of_le hone)
    simp only [List.foldl_cons, List.foldl_nil, State.feed, State.begin, hlead, hc]
  split
  · next hone htwo =>
    have hlead := lead_two (v / 64 % 32) (by omega) (by omega)
    have hbits : 64 * (v / 64 % 32) + v % 64 = v := by omega
    simp only [List.foldl_cons, List.foldl_nil, feed_lead hlead]
    rw [feed_last (by omega), hbits, hc]
  split
  · next hone htwo hthree =>
    have hlead := lead_three (v / 4096 % 16) (by omega)
    have hbits : 64 * (64 * (v / 4096 % 16) + v / 64 % 64) + v % 64 = v := by omega
    simp only [List.foldl_cons, List.foldl_nil, feed_lead hlead]
    rw [feed_second_of_three (by omega) (by omega) (by omega), feed_last (by omega), hbits, hc]
  · next hone htwo hthree =>
    have hlead := lead_four (v / 262144 % 8) (by omega)
    have hbits : 64 * (64 * (64 * (v / 262144 % 8) + v / 4096 % 64) + v / 64 % 64) + v % 64 = v := by
      omega
    simp only [List.foldl_cons, List.foldl_nil, feed_lead hlead]
    rw [feed_second_of_four (by omega) (by omega) (by omega), feed_more (by omega),
      feed_last (by omega), hbits, hc]

theorem feed_encode (s : Text) :
    (encode s).foldl State.feed ⟨none, out⟩ = ⟨none, s.reverse ++ out⟩ := by
  induction s generalizing out with
  | nil => rfl
  | cons c s ih =>
    change (String.utf8EncodeChar c ++ encode s).foldl State.feed ⟨none, out⟩ = _
    rw [List.foldl_append, feed_encodeChar, ih, List.reverse_cons, List.append_assoc]
    rfl

/-- What was encoded is decoded. -/
theorem decode_encode (s : Text) : decode (encode s) = s := by
  unfold decode State.start
  rw [feed_encode]
  simp [State.finish]

/-! ### Bytes that are decoded without loss

The other way round: as long as nothing was replaced, the bytes read are those of the characters
and of the sequence that is open. -/

/-- The bytes that a text is encoded to. -/
def Valid (bytes : Bytes) : Prop := ∃ s, encode s = bytes

theorem encode_append (s t : Text) : encode (s ++ t) = encode s ++ encode t :=
  List.flatMap_append

theorem encode_singleton (c : Char) : encode [c] = String.utf8EncodeChar c :=
  List.append_nil _

theorem toNat_val_ofNat (h : n.isValidChar) : (Char.ofNat n).val.toNat = n := by
  rw [Char.ofNat, dif_pos h]
  rfl

theorem encodeChar_two {a : Nat} (ha : a < 32) (wide : 2 ≤ a) (hk : k < 64) :
    String.utf8EncodeChar (Char.ofNat (64 * a + k)) =
      [UInt8.ofNat (a + 0xC0), UInt8.ofNat (k + 0x80)] := by
  have hv : (Char.ofNat (64 * a + k)).val.toNat = 64 * a + k :=
    toNat_val_ofNat (by simp only [Nat.isValidChar]; omega)
  have hhead : (64 * a + k) / 64 % 32 = a := by omega
  have htail : (64 * a + k) % 64 = k := by omega
  simp only [String.utf8EncodeChar, hv]
  rw [if_neg (by omega), if_pos (by omega), hhead, htail]

theorem encodeChar_three {a k₁ : Nat} (ha : a < 16) (hk₁ : k₁ < 64) (overlong : a = 0 → 32 ≤ k₁)
    (surrogate : a = 13 → k₁ < 32) (hk : k < 64) :
    String.utf8EncodeChar (Char.ofNat (64 * (64 * a + k₁) + k)) =
      [UInt8.ofNat (a + 0xE0), UInt8.ofNat (k₁ + 0x80), UInt8.ofNat (k + 0x80)] := by
  have hv : (Char.ofNat (64 * (64 * a + k₁) + k)).val.toNat = 64 * (64 * a + k₁) + k :=
    toNat_val_ofNat (by simp only [Nat.isValidChar]; omega)
  have hhead : (64 * (64 * a + k₁) + k) / 4096 % 16 = a := by omega
  have hsecond : (64 * (64 * a + k₁) + k) / 64 % 64 = k₁ := by omega
  have htail : (64 * (64 * a + k₁) + k) % 64 = k := by omega
  simp only [String.utf8EncodeChar, hv]
  rw [if_neg (by omega), if_neg (by omega), if_pos (by omega), hhead, hsecond, htail]

theorem encodeChar_four {a k₁ k₂ : Nat} (ha : a < 5) (hk₁ : k₁ < 64) (overlong : a = 0 → 16 ≤ k₁)
    (tooLarge : a = 4 → k₁ < 16) (hk₂ : k₂ < 64) (hk : k < 64) :
    String.utf8EncodeChar (Char.ofNat (64 * (64 * (64 * a + k₁) + k₂) + k)) =
      [UInt8.ofNat (a + 0xF0), UInt8.ofNat (k₁ + 0x80), UInt8.ofNat (k₂ + 0x80),
        UInt8.ofNat (k + 0x80)] := by
  have hv : (Char.ofNat (64 * (64 * (64 * a + k₁) + k₂) + k)).val.toNat =
      64 * (64 * (64 * a + k₁) + k₂) + k :=
    toNat_val_ofNat (by simp only [Nat.isValidChar]; omega)
  have hhead : (64 * (64 * (64 * a + k₁) + k₂) + k) / 262144 % 8 = a := by omega
  have hsecond : (64 * (64 * (64 * a + k₁) + k₂) + k) / 4096 % 64 = k₁ := by omega
  have hthird : (64 * (64 * (64 * a + k₁) + k₂) + k) / 64 % 64 = k₂ := by omega
  have htail : (64 * (64 * (64 * a + k₁) + k₂) + k) % 64 = k := by omega
  simp only [String.utf8EncodeChar, hv]
  rw [if_neg (by omega), if_neg (by omega), if_neg (by omega), hhead, hsecond, hthird, htail]

/-- The bytes of a sequence so far and what the decoder remembers of them. -/
inductive Opening : Bytes → Partial → Prop where
  | two {a : Nat} (ha : a < 32) (wide : 2 ≤ a) :
      Opening [.ofNat (a + 0xC0)] ⟨a, 0x80, 0xBF, 0⟩
  | three {a : Nat} (ha : a < 16) :
      Opening [.ofNat (a + 0xE0)]
        ⟨a, if a = 0 then 0xA0 else 0x80, if a = 13 then 0x9F else 0xBF, 1⟩
  | threeSecond {a k : Nat} (ha : a < 16) (hk : k < 64) (overlong : a = 0 → 32 ≤ k)
      (surrogate : a = 13 → k < 32) :
      Opening [.ofNat (a + 0xE0), .ofNat (k + 0x80)] ⟨64 * a + k, 0x80, 0xBF, 0⟩
  | four {a : Nat} (ha : a < 5) :
      Opening [.ofNat (a + 0xF0)]
        ⟨a, if a = 0 then 0x90 else 0x80, if a = 4 then 0x8F else 0xBF, 2⟩
  | fourSecond {a k : Nat} (ha : a < 5) (hk : k < 64) (overlong : a = 0 → 16 ≤ k)
      (tooLarge : a = 4 → k < 16) :
      Opening [.ofNat (a + 0xF0), .ofNat (k + 0x80)] ⟨64 * a + k, 0x80, 0xBF, 1⟩
  | fourThird {a k k' : Nat} (ha : a < 5) (hk : k < 64) (overlong : a = 0 → 16 ≤ k)
      (tooLarge : a = 4 → k < 16) (hk' : k' < 64) :
      Opening [.ofNat (a + 0xF0), .ofNat (k + 0x80), .ofNat (k' + 0x80)]
        ⟨64 * (64 * a + k) + k', 0x80, 0xBF, 0⟩

/-- A byte between two sequences is a character, opens a sequence or is replaced. -/
theorem lead_cases (b : UInt8) :
    (∃ c, lead b = .char c ∧ String.utf8EncodeChar c = [b]) ∨
      (∃ p, lead b = .opens p ∧ Opening [b] p) ∨ lead b = .invalid := by
  have hb : b = UInt8.ofNat b.toNat := b.ofNat_toNat.symm
  have hlt : b.toNat < 256 := b.toNat_lt
  generalize b.toNat = n at hb hlt
  subst hb
  have hinvalid : ∀ n < 256, 0x80 ≤ n ∧ n < 0xC2 ∨ 0xF5 ≤ n → lead (.ofNat n) = .invalid := by
    decide +kernel
  by_cases hone : n < 0x80
  · have hv : (Char.ofNat n).val.toNat = n :=
      toNat_val_ofNat (by simp only [Nat.isValidChar]; omega)
    refine .inl ⟨_, lead_one hone, ?_⟩
    simp only [String.utf8EncodeChar, hv]
    rw [if_pos (by omega)]
  by_cases htail : n < 0xC2
  · exact .inr (.inr (hinvalid n hlt (.inl ⟨by omega, htail⟩)))
  by_cases htwo : n < 0xE0
  · obtain ⟨a, rfl⟩ := Nat.exists_eq_add_of_le' (show 0xC0 ≤ n by omega)
    exact .inr (.inl ⟨_, lead_two a (by omega) (by omega), .two (by omega) (by omega)⟩)
  by_cases hthree : n < 0xF0
  · obtain ⟨a, rfl⟩ := Nat.exists_eq_add_of_le' (show 0xE0 ≤ n by omega)
    exact .inr (.inl ⟨_, lead_three a (by omega), .three (by omega)⟩)
  by_cases hfour : n < 0xF5
  · obtain ⟨a, rfl⟩ := Nat.exists_eq_add_of_le' (show 0xF0 ≤ n by omega)
    exact .inr (.inl ⟨_, lead_four a (by omega), .four (by omega)⟩)
  · exact .inr (.inr (hinvalid n hlt (.inr (by omega))))

/-- The byte that continues a sequence completes its character or leaves the sequence open. -/
theorem Opening.next {read : Bytes} {p : Partial} (h : Opening read p) {b : UInt8}
    (low : p.low ≤ b) (high : b ≤ p.high) :
    match p.more with
    | 0 => String.utf8EncodeChar (Char.ofNat (64 * p.bits + (b.toNat - 0x80))) = read ++ [b]
    | more + 1 => Opening (read ++ [b]) ⟨64 * p.bits + (b.toNat - 0x80), 0x80, 0xBF, more⟩ := by
  have hrange : 0x80 ≤ p.low.toNat ∧ p.high.toNat ≤ 0xBF := by
    cases h <;> dsimp only <;> constructor <;> first | decide | (split <;> decide)
  rw [UInt8.le_iff_toNat_le] at low high
  have hb : b = UInt8.ofNat b.toNat := b.ofNat_toNat.symm
  obtain ⟨k, hk⟩ := Nat.exists_eq_add_of_le' (Nat.le_trans hrange.1 low)
  rw [hk] at low high hb
  have hlt : k < 64 := by omega
  rw [hk, Nat.add_sub_cancel, hb]
  cases h with
  | two ha wide => exact encodeChar_two ha wide hlt
  | three ha =>
    refine .threeSecond ha hlt (fun h0 => ?_) (fun h13 => ?_)
    · rw [if_pos h0] at low
      have hlow : 0xA0 ≤ k + 0x80 := low
      omega
    · rw [if_pos h13] at high
      have hhigh : k + 0x80 ≤ 0x9F := high
      omega
  | threeSecond ha hk₁ overlong surrogate => exact encodeChar_three ha hk₁ overlong surrogate hlt
  | four ha =>
    refine .fourSecond ha hlt (fun h0 => ?_) (fun h4 => ?_)
    · rw [if_pos h0] at low
      have hlow : 0x90 ≤ k + 0x80 := low
      omega
    · rw [if_pos h4] at high
      have hhigh : k + 0x80 ≤ 0x8F := high
      omega
  | fourSecond ha hk₁ overlong tooLarge => exact .fourThird ha hk₁ overlong tooLarge hlt
  | fourThird ha hk₁ overlong tooLarge hk₂ =>
    exact encodeChar_four ha hk₁ overlong tooLarge hk₂ hlt

/-- What was read, as long as nothing was replaced: the characters and the open sequence. -/
def State.Lossless (s : State) (read : Bytes) : Prop :=
  replacement ∉ s.out → ∃ rest, read = encode s.out.reverse ++ rest ∧
    match s.open? with
    | none => rest = []
    | some p => Opening rest p

theorem lossless_begin {read : Bytes} (b : UInt8)
    (h : replacement ∉ out → read = encode out.reverse) :
    (State.begin out b).Lossless (read ++ [b]) := by
  unfold State.begin State.Lossless
  obtain ⟨c, hlead, hc⟩ | ⟨p, hlead, hp⟩ | hlead := lead_cases b
  · simp only [hlead, List.mem_cons, not_or]
    rintro ⟨-, hout⟩
    refine ⟨[], ?_, rfl⟩
    rw [List.reverse_cons, encode_append, encode_singleton, hc, ← h hout, List.append_nil]
  · simp only [hlead]
    exact fun hout => ⟨[b], by rw [← h hout], hp⟩
  · simp only [hlead, List.mem_cons, not_or]
    exact fun hout => absurd trivial hout.1

theorem State.Lossless.feed {s : State} {read : Bytes} (h : s.Lossless read) (b : UInt8) :
    (s.feed b).Lossless (read ++ [b]) := by
  obtain ⟨open?, out⟩ := s
  unfold State.feed
  cases open? with
  | none =>
    refine lossless_begin b fun hout => ?_
    obtain ⟨rest, hread, hrest⟩ := h hout
    rw [hread, show rest = [] from hrest, List.append_nil]
  | some p =>
    dsimp only
    split
    · next hrange =>
      cases hmore : p.more with
      | zero =>
        dsimp only [State.Lossless]
        intro hout
        obtain ⟨rest, hread, hrest⟩ := h (fun hmem => hout (List.mem_cons_of_mem _ hmem))
        have hchar := hrest.next hrange.1 hrange.2
        rw [hmore] at hchar
        refine ⟨[], ?_, rfl⟩
        rw [List.reverse_cons, encode_append, encode_singleton, hchar, hread, List.append_nil,
          List.append_assoc]
      | succ more =>
        intro hout
        obtain ⟨rest, hread, hrest⟩ := h hout
        have hopen := hrest.next hrange.1 hrange.2
        rw [hmore] at hopen
        exact ⟨rest ++ [b], by rw [hread, List.append_assoc], hopen⟩
    · exact lossless_begin b fun hout => absurd (List.mem_cons_self ..) hout

theorem State.Lossless.foldl {s : State} {read bytes : Bytes} (h : s.Lossless read) :
    (bytes.foldl State.feed s).Lossless (read ++ bytes) := by
  induction bytes generalizing s read with
  | nil => rwa [List.append_nil]
  | cons b bytes ih =>
    rw [List.append_cons]
    exact ih (h.feed b)

/-- What was decoded without a replacement is encoded to the bytes that were read. -/
theorem encode_decode {bytes : Bytes} (h : replacement ∉ decode bytes) :
    encode (decode bytes) = bytes := by
  have hstart : State.start.Lossless [] := fun _ => ⟨[], rfl, rfl⟩
  have hread : (bytes.foldl State.feed .start).Lossless ([] ++ bytes) := hstart.foldl
  rw [List.nil_append] at hread
  unfold decode State.finish at *
  split at h
  · next hopen =>
    obtain ⟨rest, hbytes, hrest⟩ := hread (fun hmem => h (List.mem_reverse.2 hmem))
    rw [hopen] at hrest
    rw [show rest = [] from hrest, List.append_nil] at hbytes
    exact hbytes.symm
  · exact absurd (List.mem_reverse.2 (List.mem_cons_self ..)) h

/-- Bytes that stand for a text are decoded to it and to nothing else. -/
theorem read?_encode (s : Text) : read? (encode s) = some s := by
  rw [read?, decode_encode, if_pos rfl]

theorem valid_iff {bytes : Bytes} : Valid bytes ↔ encode (decode bytes) = bytes := by
  constructor
  · rintro ⟨s, rfl⟩
    rw [decode_encode]
  · exact fun h => ⟨_, h⟩

/-- A byte that begins no sequence is replaced, whatever stands around it. -/
theorem decode_stray (s t : Text) :
    decode (encode s ++ 0xFF :: encode t) = s ++ replacement :: t := by
  have hlead : lead 0xFF = .invalid := by decide
  unfold decode State.start
  rw [List.foldl_append, List.foldl_cons, feed_encode]
  simp only [State.feed, State.begin, hlead]
  rw [feed_encode]
  simp [State.finish]

/-- A text with U+FFFD in it is also what some bytes are decoded to in which something was
    replaced; any other is decoded from its own bytes alone. -/
theorem decode_determines_iff {bytes : Bytes} :
    (∀ other, decode other = decode bytes → other = bytes) ↔ replacement ∉ decode bytes := by
  constructor
  · intro hunique hmem
    have hvalid : encode (decode bytes) = bytes := hunique _ (decode_encode _)
    obtain ⟨s, t, hst⟩ := List.append_of_mem hmem
    have hstray : encode s ++ 0xFF :: encode t = bytes :=
      hunique _ (by rw [decode_stray, hst])
    -- An encoded U+FFFD begins with another byte than the stray one.
    rw [← hvalid, hst, encode_append] at hstray
    have htail := List.append_cancel_left hstray
    exact absurd (List.cons.inj htail).1 (by decide)
  · intro hclean other hother
    have hclean' : replacement ∉ decode other := hother ▸ hclean
    rw [← encode_decode hclean', hother, encode_decode hclean]

/-! ### Line feeds

A sequence of two bytes or more stands for a character from U+0080 on, so a line feed is decoded
from its own byte and from no other. -/

/-- However the sequence goes on, its character is not in the range of one byte. -/
def Partial.Wide (p : Partial) : Prop :=
  0x80 ≤ p.low.toNat ∧
    (if p.more = 0 then 0x80 else 2) ≤ 64 * p.bits + (p.low.toNat - 0x80)
deriving Decidable

theorem ofNat_ne_newline {v : Nat} (h : 0x80 ≤ v) : Char.ofNat v ≠ '\n' := by
  intro heq
  have hval : (Char.ofNat v).val.toNat = 10 := congrArg (·.val.toNat) heq
  by_cases hv : v.isValidChar
  · rw [Char.ofNat, dif_pos hv] at hval
    have hten : v = 10 := hval
    omega
  · rw [Char.ofNat, dif_neg hv] at hval
    cases hval

theorem wide_of_lead {p : Partial} (b : UInt8) (h : lead b = .opens p) : p.Wide := by
  have hlead : ∀ n < 256, (match lead (UInt8.ofNat n) with
      | .opens p => decide p.Wide
      | _ => true) = true := by decide +kernel
  have hb := hlead b.toNat b.toNat_lt
  rw [UInt8.ofNat_toNat, h] at hb
  exact of_decide_eq_true hb

theorem lead_newline {b : UInt8} (h : lead b = .char '\n') : b = 0x0A := by
  have hlead : ∀ n < 256, lead (UInt8.ofNat n) = .char '\n' → n = 0x0A := by decide +kernel
  rw [← b.ofNat_toNat] at h
  exact UInt8.toNat_inj.1 (hlead b.toNat b.toNat_lt h)

/-- What holds of a decoder that has seen no line feed. -/
structure State.NoNewline (s : State) : Prop where
  out : '\n' ∉ s.out
  wide : ∀ p, s.open? = some p → p.Wide

theorem State.NoNewline.begin {b : UInt8} (hout : '\n' ∉ out) (hb : b ≠ 0x0A) :
    (State.begin out b).NoNewline := by
  unfold State.begin
  match hlead : lead b with
  | .char c =>
    refine ⟨fun hc => ?_, nofun⟩
    obtain rfl := (List.mem_cons.1 hc).resolve_right hout
    exact hb (lead_newline hlead)
  | .opens p =>
    refine ⟨hout, fun q hq => ?_⟩
    cases hq
    exact wide_of_lead b hlead
  | .invalid => exact ⟨by simp [replacement, hout], nofun⟩

theorem State.NoNewline.feed {s : State} {b : UInt8} (h : s.NoNewline) (hb : b ≠ 0x0A) :
    (s.feed b).NoNewline := by
  unfold State.feed
  match hopen : s.open? with
  | none => exact .begin h.out hb
  | some p =>
    obtain ⟨hlow, hwide⟩ := h.wide p hopen
    dsimp only
    split
    · next hrange =>
      have hmin : p.low.toNat ≤ b.toNat := UInt8.le_iff_toNat_le.1 hrange.1
      have hbits : 64 * p.bits + (p.low.toNat - 0x80) ≤ 64 * p.bits + (b.toNat - 0x80) := by omega
      have hnext := Nat.le_trans hwide hbits
      match hmore : p.more with
      | 0 =>
        rw [if_pos hmore] at hnext
        exact ⟨by simp [h.out, (ofNat_ne_newline hnext).symm], nofun⟩
      | more + 1 =>
        -- The bits so far are at least two, so with the next six the character is wide.
        rw [if_neg (hmore ▸ Nat.succ_ne_zero more)] at hnext
        refine ⟨h.out, fun q hq => ?_⟩
        rw [← Option.some.inj hq]
        refine ⟨Nat.le_refl _, ?_⟩
        dsimp only
        split <;> omega
    · exact .begin (by simp [replacement, h.out]) hb

theorem State.NoNewline.foldl {bytes : Bytes} {s : State} (h : s.NoNewline)
    (hbytes : 0x0A ∉ bytes) : (bytes.foldl State.feed s).NoNewline := by
  induction bytes generalizing s with
  | nil => exact h
  | cons b bytes ih =>
    simp only [List.mem_cons, not_or] at hbytes
    exact ih (h.feed (Ne.symm hbytes.1)) hbytes.2

theorem noNewline_start : State.start.NoNewline := ⟨nofun, nofun⟩

theorem State.NoNewline.notMem_finish {s : State} (h : s.NoNewline) : '\n' ∉ s.finish := by
  unfold State.finish
  split <;> simp [replacement, h.out]

/-- Whatever sequence is open, a line feed ends it. -/
theorem State.NoNewline.finish_feed {s : State} (h : s.NoNewline) :
    (s.feed 0x0A).finish = s.finish ++ ['\n'] := by
  have hlead : lead 0x0A = .char '\n' := by decide
  unfold State.feed State.finish
  match hopen : s.open? with
  | none => simp [State.begin, hlead]
  | some p =>
    have hlow : ¬ (p.low ≤ 0x0A ∧ 0x0A ≤ p.high) := by
      intro hrange
      have hle := Nat.le_trans (h.wide p hopen).1 (UInt8.le_iff_toNat_le.1 hrange.1)
      exact absurd hle (by decide)
    simp [State.begin, hlead, hlow]

/-- Bytes without a line feed are decoded to a text without one. -/
theorem newline_notMem_decode {bytes : Bytes} (h : 0x0A ∉ bytes) : '\n' ∉ decode bytes :=
  (noNewline_start.foldl h).notMem_finish

/-- A line feed behind them is decoded by itself. -/
theorem decode_append_newline {bytes : Bytes} (h : 0x0A ∉ bytes) :
    decode (bytes ++ [0x0A]) = decode bytes ++ ['\n'] := by
  unfold decode
  rw [List.foldl_append]
  exact (noNewline_start.foldl h).finish_feed

end Overseer.Utf8
