import Overseer.Proofs.Text.Fields
import Overseer.Proofs.Text.Utf8

/-! ## Cutting an encoded text

A cut through the bytes of a text goes between two of its characters or through one. Bytes between
two cuts are the rest of a character, whole characters and the beginning of another. Decoding them
gives the whole characters; the beginning becomes one U+FFFD, and so does each byte of the rest. -/

namespace Overseer.Utf8

variable {s t middle : Text} {c : Char} {out : List Char} {u v x y before piece after : Bytes}
  {p : Partial}

/-! ### The bytes of a character -/

/-- The bytes that one character is encoded to. -/
inductive Sequence : Bytes → Prop where
  | one {b : UInt8} : Sequence [b]
  | two {a k : Nat} (ha : a < 32) (wide : 2 ≤ a) (hk : k < 64) :
      Sequence [.ofNat (a + 0xC0), .ofNat (k + 0x80)]
  | three {a k k' : Nat} (ha : a < 16) (hk : k < 64) (overlong : a = 0 → 32 ≤ k)
      (surrogate : a = 13 → k < 32) (hk' : k' < 64) :
      Sequence [.ofNat (a + 0xE0), .ofNat (k + 0x80), .ofNat (k' + 0x80)]
  | four {a k k' k'' : Nat} (ha : a < 5) (hk : k < 64) (overlong : a = 0 → 16 ≤ k)
      (tooLarge : a = 4 → k < 16) (hk' : k' < 64) (hk'' : k'' < 64) :
      Sequence [.ofNat (a + 0xF0), .ofNat (k + 0x80), .ofNat (k' + 0x80), .ofNat (k'' + 0x80)]

theorem sequence_encodeChar (c : Char) : Sequence (String.utf8EncodeChar c) := by
  have hvalid : c.val.toNat < 0xD800 ∨ 0xDFFF < c.val.toNat ∧ c.val.toNat < 0x110000 := c.valid
  unfold String.utf8EncodeChar
  generalize c.val.toNat = n at hvalid
  dsimp only
  split
  · exact .one
  split
  · exact .two (by omega) (by omega) (by omega)
  split
  · exact .three (by omega) (by omega) (by omega) (by omega) (by omega)
  · exact .four (by omega) (by omega) (by omega) (by omega) (by omega) (by omega)

/-- A byte behind the first one of a character begins none. -/
theorem lead_tail : ∀ k < 64, lead (UInt8.ofNat (k + 0x80)) = .invalid := by decide

theorem Sequence.stray {b : UInt8} (h : Sequence (b :: y)) : ∀ d ∈ y, lead d = .invalid := by
  cases h with
  | one => exact nofun
  | two _ _ hk => exact List.forall_mem_singleton.2 (lead_tail _ hk)
  | three _ hk _ _ hk' =>
    exact List.forall_mem_cons.2 ⟨lead_tail _ hk, List.forall_mem_singleton.2 (lead_tail _ hk')⟩
  | four _ hk _ _ hk' hk'' =>
    exact List.forall_mem_cons.2 ⟨lead_tail _ hk,
      List.forall_mem_cons.2 ⟨lead_tail _ hk', List.forall_mem_singleton.2 (lead_tail _ hk'')⟩⟩

/-- What stands before a cut through a character leaves its sequence open, and no byte behind the cut
    begins another. -/
theorem Sequence.cut (h : Sequence (x ++ y)) (hx : x ≠ []) (hy : y ≠ []) :
    (∃ p, Opening x p) ∧ ∀ d ∈ y, lead d = .invalid := by
  obtain ⟨b, x, rfl⟩ := List.exists_cons_of_ne_nil hx
  refine ⟨?_, fun d hd => h.stray d (List.mem_append_right x hd)⟩
  obtain ⟨d, y, rfl⟩ := List.exists_cons_of_ne_nil hy
  generalize hbytes : (b :: x) ++ d :: y = bytes at h
  cases h with
  | one => simp at hbytes
  | two ha wide _ =>
    obtain ⟨rfl, hrest⟩ := List.cons.inj hbytes
    rcases x with _ | ⟨b, x⟩
    · exact ⟨_, .two ha wide⟩
    · simp at hrest
  | three ha hk overlong surrogate _ =>
    obtain ⟨rfl, hrest⟩ := List.cons.inj hbytes
    rcases x with _ | ⟨b, _ | ⟨b', x⟩⟩
    · exact ⟨_, .three ha⟩
    · cases hrest
      exact ⟨_, .threeSecond ha hk overlong surrogate⟩
    · simp at hrest
  | four ha hk overlong tooLarge hk' _ =>
    obtain ⟨rfl, hrest⟩ := List.cons.inj hbytes
    rcases x with _ | ⟨b, _ | ⟨b', _ | ⟨b'', x⟩⟩⟩
    · exact ⟨_, .four ha⟩
    · cases hrest
      exact ⟨_, .fourSecond ha hk overlong tooLarge⟩
    · cases hrest
      exact ⟨_, .fourThird ha hk overlong tooLarge hk'⟩
    · simp at hrest

theorem Sequence.length_le (h : Sequence x) : x.length ≤ 4 := by
  cases h <;> simp

/-! ### Cuts -/

/-- A cut through the bytes of a text, by what stands on either side. -/
inductive Cut (s : Text) : Bytes → Bytes → Prop
  | between {a b : Text} (text : s = a ++ b) : Cut s (encode a) (encode b)
  | inside {a b : Text} {c : Char} {x y : Bytes} (text : s = a ++ c :: b)
      (char : x ++ y = String.utf8EncodeChar c) (hx : x ≠ []) (hy : y ≠ []) :
      Cut s (encode a ++ x) (y ++ encode b)

/-- There is no third way. -/
theorem cut_of_append (h : u ++ v = encode s) : Cut s u v := by
  induction s generalizing u with
  | nil =>
    obtain ⟨rfl, rfl⟩ := List.append_eq_nil_iff.1 h
    exact .between (a := []) (b := []) rfl
  | cons c s ih =>
    have hfirst : u ++ v = String.utf8EncodeChar c ++ encode s := h
    rcases List.append_eq_append_iff.1 hfirst with ⟨r, hchar, rfl⟩ | ⟨r, rfl, hrest⟩
    · by_cases hu : u = []
      · subst hu
        rw [List.nil_append] at hchar
        rw [← hchar]
        exact .between (a := []) (b := c :: s) rfl
      by_cases hr : r = []
      · subst hr
        rw [List.append_nil] at hchar
        rw [← hchar, ← encode_singleton]
        exact .between (a := [c]) (b := s) rfl
      · exact .inside (a := []) rfl hchar.symm hu hr
    · cases ih hrest.symm with
      | @between a b text =>
        rw [← encode_singleton, ← encode_append]
        exact .between (congrArg (c :: ·) text)
      | @inside a b d x y text char hx hy =>
        rw [← List.append_assoc, ← encode_singleton, ← encode_append]
        exact .inside (congrArg (c :: ·) text) char hx hy

/-! ### Decoding what was cut off -/

/-- The bytes of a sequence that is open lead the decoder into it. -/
theorem Opening.feed (h : Opening x p) : x.foldl State.feed ⟨none, out⟩ = ⟨some p, out⟩ := by
  cases h with
  | two ha wide => exact feed_lead (lead_two _ ha wide)
  | three ha => exact feed_lead (lead_three _ ha)
  | threeSecond ha hk overlong surrogate =>
    simp only [List.foldl_cons, List.foldl_nil, feed_lead (lead_three _ ha)]
    exact feed_second_of_three hk overlong surrogate
  | four ha => exact feed_lead (lead_four _ ha)
  | fourSecond ha hk overlong tooLarge =>
    simp only [List.foldl_cons, List.foldl_nil, feed_lead (lead_four _ ha)]
    exact feed_second_of_four hk overlong tooLarge
  | fourThird ha hk overlong tooLarge hk' =>
    simp only [List.foldl_cons, List.foldl_nil, feed_lead (lead_four _ ha),
      feed_second_of_four hk overlong tooLarge]
    exact feed_more hk'

theorem Opening.ne_nil (h : Opening x p) : x ≠ [] := by
  cases h <;> exact List.cons_ne_nil _ _

/-- Bytes that begin no sequence are replaced one by one. -/
theorem feed_stray (h : ∀ b ∈ y, lead b = .invalid) :
    y.foldl State.feed ⟨none, out⟩ = ⟨none, List.replicate y.length replacement ++ out⟩ := by
  induction y generalizing out with
  | nil => rfl
  | cons b y ih =>
    obtain ⟨hb, hy⟩ := List.forall_mem_cons.1 h
    have hfeed : State.feed ⟨none, out⟩ b = ⟨none, replacement :: out⟩ := by
      simp only [State.feed, State.begin, hb]
    rw [List.foldl_cons, hfeed, ih hy, List.length_cons, List.replicate_succ', List.append_assoc,
      List.singleton_append]

/-- Nothing, or the beginning of a character. -/
def Begun (x : Bytes) : Prop := x = [] ∨ ∃ p, Opening x p

/-- What the beginning of a character is decoded to. -/
def begunText (x : Bytes) : Text := if x = [] then [] else [replacement]

theorem decode_stretch (hy : ∀ b ∈ y, lead b = .invalid) (hx : Begun x) :
    decode (y ++ encode middle ++ x) =
      List.replicate y.length replacement ++ middle ++ begunText x := by
  unfold decode State.start begunText
  rw [List.foldl_append, List.foldl_append, feed_stray hy, feed_encode]
  rcases hx with rfl | ⟨p, hp⟩
  · simp [State.finish]
  · rw [hp.feed, if_neg hp.ne_nil]
    simp [State.finish]

/-- Bytes in which a sequence is left open stand for no text. -/
theorem Begun.valid_iff (hx : Begun x) : Valid (encode s ++ x) ↔ x = [] := by
  rcases hx with rfl | ⟨p, hp⟩
  · exact iff_of_true ⟨s, (List.append_nil _).symm⟩ rfl
  · refine iff_of_false ?_ hp.ne_nil
    rintro ⟨t, ht⟩
    have hfed := congrArg (List.foldl State.feed ⟨none, []⟩) ht
    rw [List.foldl_append, feed_encode, feed_encode, hp.feed] at hfed
    cases hfed

/-! ### Stretches -/

/-- What stands in a piece of a text's bytes: the rest of a character that begins before the piece,
    the characters `middle` of the text, and the beginning of one that ends behind the piece. -/
structure Stretch (s : Text) (before piece rest : Bytes) (middle : Text) (begun : Bytes) :
    Prop where
  piece_eq : piece = rest ++ encode middle ++ begun
  decode_eq : decode piece = List.replicate rest.length replacement ++ middle ++ begunText begun
  place : ∃ a b, s = a ++ middle ++ b ∧ encode a = before ++ rest
  rest_eq_nil_iff : rest = [] ↔ Valid before
  begun_eq_nil_iff : begun = [] ↔ Valid (before ++ piece)

/-- The end of a piece that begins between two characters. -/
theorem exists_begun (h : piece ++ after = encode s) :
    ∃ middle b x, s = middle ++ b ∧ piece = encode middle ++ x ∧ Begun x := by
  cases cut_of_append h with
  | @between a b text => exact ⟨a, b, [], text, (List.append_nil _).symm, .inl rfl⟩
  | @inside a b c x y text char hx hy =>
    have hcut := (char ▸ sequence_encodeChar c).cut hx hy
    exact ⟨a, c :: b, x, text, rfl, .inr hcut.1⟩

/-- A piece has all of the rest of a character that begins before it, if the piece ends between two
    characters or is too long to lie inside of one. -/
theorem exists_of_wide (char : x ++ y = String.utf8EncodeChar c) (hx : x ≠ [])
    (h : piece ++ after = y ++ v) (wide : Valid (encode t ++ x ++ piece) ∨ 3 ≤ piece.length) :
    ∃ r, piece = y ++ r ∧ r ++ after = v := by
  rcases List.append_eq_append_iff.1 h with ⟨r, rfl, hafter⟩ | ⟨r, hpiece, hv⟩
  · by_cases hr : r = []
    · subst hr
      exact ⟨[], by simp, by simpa using hafter⟩
    have hseq : Sequence ((x ++ piece) ++ r) := by
      rw [List.append_assoc, char]
      exact sequence_encodeChar c
    have hne : x ++ piece ≠ [] := by simp [hx]
    have hend : ¬ Valid (encode t ++ (x ++ piece)) :=
      mt (Begun.valid_iff (.inr (hseq.cut hne hr).1)).1 hne
    rw [List.append_assoc] at wide
    have hlen := hseq.length_le
    have hxpos := List.length_pos_iff.2 hx
    have hrpos := List.length_pos_iff.2 hr
    simp only [List.length_append] at hlen
    exact absurd (wide.resolve_left hend) (by omega)
  · exact ⟨r, hpiece, hv.symm⟩

/-- Such a piece is a stretch of the text. -/
theorem exists_stretch (h : before ++ (piece ++ after) = encode s)
    (wide : Valid (before ++ piece) ∨ 3 ≤ piece.length) :
    ∃ rest middle begun, Stretch s before piece rest middle begun := by
  generalize hbehind : piece ++ after = behind at h
  cases cut_of_append h with
  | @between a b text =>
    obtain ⟨middle, b', x, rfl, rfl, hx⟩ := exists_begun hbehind
    refine ⟨[], middle, x, rfl, decode_stretch (y := []) (List.forall_mem_nil _) hx,
      ⟨a, b', ?_, ?_⟩, ?_, ?_⟩
    · rw [text, List.append_assoc]
    · rw [List.append_nil]
    · exact iff_of_true rfl ⟨a, rfl⟩
    · rw [← List.append_assoc, ← encode_append]
      exact hx.valid_iff.symm
  | @inside a b c x y text char hx hy =>
    obtain ⟨hopen, hstray⟩ := (char ▸ sequence_encodeChar c).cut hx hy
    have hbefore : ¬ Valid (encode a ++ x) := mt (Begun.valid_iff (.inr hopen)).1 hx
    have hwhole : encode (a ++ [c]) = encode a ++ x ++ y := by
      rw [encode_append, encode_singleton, ← char, List.append_assoc]
    obtain ⟨r, rfl, hrest⟩ := exists_of_wide char hx hbehind wide
    obtain ⟨middle, b', x', rfl, rfl, hx'⟩ := exists_begun hrest
    refine ⟨y, middle, x', (List.append_assoc _ _ _).symm, ?_, ⟨a ++ [c], b', ?_, hwhole⟩, ?_, ?_⟩
    · rw [← List.append_assoc]
      exact decode_stretch hstray hx'
    · simp [text]
    · exact iff_of_false hy hbefore
    · rw [← List.append_assoc, ← hwhole, ← List.append_assoc, ← encode_append]
      exact hx'.valid_iff.symm

/-! ### Texts of stretches -/

namespace Stretch

variable {rest begun : Bytes}

theorem decode_of_whole (h : Stretch s before piece [] middle []) : decode piece = middle := by
  rw [h.decode_eq]
  exact List.append_nil _

/-- Where a character is cut, something is replaced. -/
theorem replacement_mem (h : Stretch s before piece rest middle begun)
    (hcut : ¬ (rest = [] ∧ begun = [])) : replacement ∈ decode piece := by
  rw [h.decode_eq, List.mem_append, List.mem_append]
  rcases not_and_or.1 hcut with hrest | hbegun
  · have hlen : rest.length ≠ 0 := mt List.length_eq_zero_iff.1 hrest
    exact .inl (.inl (List.mem_replicate.2 ⟨hlen, rfl⟩))
  · rw [begunText, if_neg hbegun]
    exact .inr List.mem_cons_self

/-- If no character is cut, only blanks at the ends are left out. -/
theorem exists_blanks (h : Stretch s before piece [] middle []) :
    ∃ a b, middle = a ++ (decode piece).trim ++ b ∧ (∀ c ∈ a, isBlank c = true) ∧
      ∀ c ∈ b, isBlank c = true := by
  rw [h.decode_of_whole]
  exact Text.exists_trim middle

/-- What is trimmed stands in a text without U+FFFD exactly if no character is cut. -/
theorem trim_infix_iff (h : Stretch s before piece rest middle begun) (hs : replacement ∉ s) :
    (decode piece).trim <:+: s ↔ rest = [] ∧ begun = [] := by
  constructor
  · intro hpart
    by_contra hcut
    have hmem := Text.mem_trim (h.replacement_mem hcut) (by decide)
    exact hs (hpart.subset hmem)
  · rintro ⟨rfl, rfl⟩
    obtain ⟨a, b, rfl, -⟩ := h.place
    rw [h.decode_of_whole]
    exact (Text.trim_isInfix middle).trans ⟨a, b, rfl⟩

end Stretch

/-! ### Line feeds -/

/-- A line feed is a character of its own, so the bytes up to one end between two characters. -/
theorem valid_of_append_newline (h : (u ++ [0x0A]) ++ v = encode s) : Valid (u ++ [0x0A]) := by
  have hlead : lead 0x0A = .char '\n' := by decide
  generalize hbytes : u ++ [0x0A] = bytes at h ⊢
  cases cut_of_append h with
  | @between a b text => exact ⟨a, rfl⟩
  | @inside a b c x y text char hx hy =>
    exfalso
    rcases x.eq_nil_or_concat with rfl | ⟨x, d, rfl⟩
    · exact hx rfl
    rw [List.concat_eq_append] at hbytes char
    rw [← List.append_assoc] at hbytes
    obtain rfl : 0x0A = d := List.singleton_inj.1 (List.append_inj_right' hbytes rfl)
    have hseq : Sequence (x ++ [0x0A] ++ y) := char ▸ sequence_encodeChar c
    by_cases hempty : x = []
    · subst hempty
      obtain ⟨⟨p, hp⟩, -⟩ := hseq.cut (List.cons_ne_nil _ _) hy
      have hfeed : State.feed ⟨none, []⟩ 0x0A = ⟨some p, []⟩ := hp.feed
      simp [State.feed, State.begin, hlead] at hfeed
    · rw [List.append_assoc] at hseq
      have hstray := (hseq.cut hempty (by simp)).2 0x0A (by simp)
      cases hlead.symm.trans hstray

end Overseer.Utf8
