import Overseer.Proofs.Child.Framing
import Overseer.Proofs.Text.Utf8Cut

/-! ## Characters across pieces

What a reader makes of a stream that is a text. Where a piece ends because it is as long as the
limit, a character may be cut. What is handed out are the characters that the piece has whole, one
U+FFFD for the beginning of a character, and one for each byte of the rest of a character. -/

namespace Overseer.LineReader

variable {limit : Nat} {s t : Text} {earlier later ps : List Bytes} {p more : Bytes}

/-! ### Pieces of a text -/

/-- A piece ends between two characters unless it is as long as the limit. -/
theorem Framing.valid_or_full (h : Framing limit (Utf8.encode s) (earlier ++ p :: later)) :
    Utf8.Valid (earlier.flatten ++ p) ∨ p.length = limit := by
  have hflat := h.flatten
  rw [List.flatten_append, List.flatten_cons] at hflat
  cases later with
  | nil => exact .inl ⟨s, by simpa using hflat.symm⟩
  | cons q later =>
    have hinner : p ∈ (earlier ++ p :: q :: later).dropLast := by
      rw [List.dropLast_append_cons, List.dropLast_cons_cons]
      exact List.mem_append_right _ List.mem_cons_self
    refine (h.full p hinner).imp_left fun hlast => ?_
    obtain ⟨u, rfl⟩ := List.getLast?_eq_some_iff.1 hlast
    rw [← List.append_assoc] at hflat ⊢
    rw [← List.append_assoc] at hflat
    exact Utf8.valid_of_append_newline hflat

/-- Every piece is a stretch of the text, and the last character of one is cut only by the limit. -/
theorem Framing.exists_stretch (h : Framing limit (Utf8.encode s) (earlier ++ p :: later))
    (wide : 3 ≤ limit) :
    ∃ rest middle begun, Utf8.Stretch s earlier.flatten p rest middle begun ∧
      (begun ≠ [] → p.length = limit) := by
  have hend := h.valid_or_full
  have hflat := h.flatten
  rw [List.flatten_append, List.flatten_cons] at hflat
  obtain ⟨rest, middle, begun, hstretch⟩ :=
    Utf8.exists_stretch hflat (hend.imp_right fun hfull => by omega)
  refine ⟨rest, middle, begun, hstretch, fun hbegun => ?_⟩
  exact hend.resolve_left fun hvalid => hbegun (hstretch.begun_eq_nil_iff.2 hvalid)

/-! ### What a reader hands out -/

namespace Reading

variable {g : Reading}

/-- What is handed out is the next piece of the stream, whatever is still written to it. -/
theorem Sound.exists_piece_append (h : Sound limit g)
    (behind : g.reader.tail = .opened ∨ more = [])
    (returned : g.reader.poll.1 = .ready (.ok (some t))) :
    ∃ piece later, g.reader.pollPiece.1 = .ready (.ok (some piece)) ∧ t = pieceText piece ∧
      cut limit [] (g.written ++ more) = g.pieces ++ piece :: later := by
  obtain ⟨piece, hpiece, hsome⟩ := pollPiece_of_poll returned
  obtain ⟨p, rfl, rfl⟩ := Option.map_eq_some_iff.1 hsome
  have htail := (polls_pollPiece g.reader).tail_eq
  have hcut := h.poll.cut_eq more (by simpa only [htail] using behind)
  rw [hpiece] at hcut
  change cut limit [] (g.written ++ more) = (g.pieces ++ [p]) ++ _ at hcut
  rw [List.append_assoc] at hcut
  exact ⟨p, _, hpiece, rfl, hcut⟩

/-- A text that is handed out of a stream that is a text is what a stretch of the stream comes to:
    the characters that the piece has whole, with a U+FFFD for every byte at its beginning that
    belongs to a character before it, and one for a character that is only begun at its end, which
    happens only to a piece as long as the limit. If neither happens, nothing but blanks at the ends
    is left out; and as long as the stream has no U+FFFD itself, the text stands in it exactly if
    neither happens. -/
theorem texts_of_utf8 (run : Relation.ReflTransGen Step (start limit) g) (wide : 3 ≤ limit)
    (stream : g.written ++ more = Utf8.encode s) (behind : g.reader.tail = .opened ∨ more = [])
    (returned : g.reader.poll.1 = .ready (.ok (some t))) :
    ∃ piece rest middle begun, g.reader.pollPiece.1 = .ready (.ok (some piece)) ∧
      t = (Utf8.decode piece).trim ∧
      Utf8.Stretch s g.pieces.flatten piece rest middle begun ∧
      (begun ≠ [] → piece.length = limit) ∧
      (rest = [] → begun = [] → ∃ a b, middle = a ++ t ++ b ∧ (∀ c ∈ a, isBlank c = true) ∧
        ∀ c ∈ b, isBlank c = true) ∧
      (Utf8.replacement ∉ s → (t <:+: s ↔ rest = [] ∧ begun = [])) := by
  have sound := sound_of_run run
  have hlimit : max limit 1 = limit := by omega
  rw [hlimit] at sound
  obtain ⟨piece, later, hpiece, rfl, hcut⟩ := sound.exists_piece_append behind returned
  have hframing : Framing limit (Utf8.encode s) (g.pieces ++ piece :: later) := by
    rw [← hcut, stream]
    exact framing_cut (by simpa using Nat.lt_of_lt_of_le (by decide) wide) List.not_mem_nil
  obtain ⟨rest, middle, begun, hstretch, hfull⟩ := hframing.exists_stretch wide
  refine ⟨piece, rest, middle, begun, hpiece, rfl, hstretch, hfull, ?_, hstretch.trim_infix_iff⟩
  rintro rfl rfl
  exact hstretch.exists_blanks

/-- The second byte of a character has not arrived when the piece is full. -/
theorem texts_of_utf8_begun :
    let s : Text := "abé\n".toList
    let t : Text := ['a', 'b', Utf8.replacement]
    let g : Reading := ⟨⟨3, [97, 98, 195], .opened, [], false⟩, [97, 98, 195], []⟩
    (Relation.ReflTransGen Step (start 3) g ∧ g.written ++ [169, 10] = Utf8.encode s ∧
      g.reader.poll.1 = .ready (.ok (some t)) ∧ Utf8.replacement ∉ s) ∧
      ∃ middle begun, Utf8.Stretch s [] [97, 98, 195] [] middle begun ∧ begun ≠ [] ∧ ¬ t <:+: s := by
  intro s t g
  have run : Relation.ReflTransGen Step (start 3) g :=
    Relation.ReflTransGen.refl.tail (.deliver [97, 98, 195] rfl)
  have returned : g.reader.poll.1 = .ready (.ok (some t)) := by rfl
  have hs : Utf8.replacement ∉ s := by decide
  have arriving : g.written ++ [169, 10] = Utf8.encode s := by decide
  obtain ⟨piece, rest, middle, begun, hpiece, -, hstretch, -, -, hpart⟩ :=
    texts_of_utf8 run (by decide) arriving (.inl rfl) returned
  cases hpiece
  obtain rfl : rest = [] := hstretch.rest_eq_nil_iff.2 ⟨[], rfl⟩
  have hnot : ¬ t <:+: s := fun h => hs (h.subset (by simp [t]))
  exact ⟨⟨run, arriving, returned, hs⟩, middle, begun, hstretch,
    fun hbegun => hnot ((hpart hs).2 ⟨rfl, hbegun⟩), hnot⟩

end Reading

/-! ### A character that is cut -/

theorem encode_replicate (n : Nat) : Utf8.encode (List.replicate n 'a') = List.replicate n 97 := by
  induction n with
  | zero => rfl
  | succ n ih =>
    rw [List.replicate_succ, List.replicate_succ, ← ih]
    rfl

/-- Behind as many bytes as fit into a piece but for one, a character of two bytes is cut. -/
theorem exists_replacement_mem_texts (n : Nat) :
    ∃ t ∈ texts (n + 1) (Utf8.encode (List.replicate n 'a' ++ ['é'])), Utf8.replacement ∈ t := by
  have hbytes : Utf8.encode (List.replicate n 'a' ++ ['é']) =
      List.replicate n 97 ++ [0xC3, 0xA9] := by
    rw [Utf8.encode_append, encode_replicate]
    rfl
  have hnewline : newline ∉ List.replicate n (97 : UInt8) := by
    rw [List.mem_replicate]
    exact fun h => absurd h.2 (by decide)
  have hcut : cut (n + 1) [] (List.replicate n 97 ++ [0xC3, 0xA9]) =
      (List.replicate n 97 ++ [0xC3]) :: cut (n + 1) [] [0xA9] := by
    rw [cut_append hnewline (by simp), List.nil_append]
    exact cut_of_ends (.inr (by simp))
  refine ⟨pieceText (List.replicate n 97 ++ [0xC3]), ?_, Text.mem_trim ?_ (by decide)⟩
  · rw [texts, hbytes, hcut]
    exact List.mem_cons_self
  · have hbegun : Utf8.Begun [0xC3] := .inr ⟨_, .two (a := 3) (by decide) (by decide)⟩
    have hdecode : Utf8.decode ([] ++ Utf8.encode (List.replicate n 'a') ++ [0xC3]) = _ :=
      Utf8.decode_stretch (List.forall_mem_nil _) hbegun
    rw [List.nil_append, encode_replicate] at hdecode
    rw [hdecode]
    exact List.mem_append_right _ List.mem_cons_self

/-- What a reader hands out of a child's output is not always a part of it, even if the output is a
    text: in the one here a character stands across the limit. -/
theorem not_texts_of_utf8_isInfix :
    ¬ ∀ (s : Text) (ts : List Text),
      HandsOut ((ofLimit standardLimit).deliver (Utf8.encode s)).close ts → ∀ t ∈ ts, t <:+: s := by
  intro h
  obtain ⟨t, ht, hmem⟩ := exists_replacement_mem_texts 65535
  have hpart := h _ _ ((handsOut_iff standardLimit _ _).2 rfl) t ht
  have hnot : Utf8.replacement ∉ List.replicate 65535 'a' ++ ['é'] := by
    rw [List.mem_append, List.mem_replicate]
    rintro (h | h)
    · exact absurd h.2 (by decide)
    · exact absurd h (by decide)
  exact hnot (hpart.subset hmem)

end Overseer.LineReader
