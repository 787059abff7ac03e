import Overseer.Proofs.Child.Reading
import Overseer.Proofs.Text.Layout
import Overseer.Proofs.Text.Utf8

/-! ## The pieces of a stream

`Framing` says what the pieces of a stream are without cutting it. A stream can be framed in one way
only, and this is how a reader takes it apart, in whatever portions the stream arrives and however
often a poll is given up. -/

namespace Overseer.LineReader

variable {limit : Nat} {bytes piece p stream : Bytes} {ps : List Bytes} {b : UInt8}

/-! ### Framings -/

/-- The bytes are cut into pieces after line feeds, and where a piece is as long as the limit. -/
structure Framing (limit : Nat) (bytes : Bytes) (ps : List Bytes) : Prop where
  flatten : ps.flatten = bytes
  nonempty : ∀ p ∈ ps, p ≠ []
  short : ∀ p ∈ ps, p.length ≤ limit
  inner : ∀ p ∈ ps, newline ∉ p.dropLast
  full : ∀ p ∈ ps.dropLast, p.getLast? = some newline ∨ p.length = limit

theorem framing_nil (limit : Nat) : Framing limit [] [] := ⟨rfl, nofun, nofun, nofun, nofun⟩

/-- What is left of a stream without a line feed is its last piece. -/
theorem framing_singleton (nonempty : p ≠ []) (short : p.length ≤ limit)
    (hp : newline ∉ p.dropLast) : Framing limit p [p] := by
  refine ⟨List.append_nil p, ?_, ?_, ?_, nofun⟩ <;> simpa only [List.forall_mem_singleton]

/-- A piece that is complete can stand before any others. -/
theorem Framing.cons (h : Framing limit bytes ps) (room : piece.length < limit)
    (hpiece : newline ∉ piece) (hb : Ends limit piece b) :
    Framing limit (piece ++ b :: bytes) ((piece ++ [b]) :: ps) := by
  have hlen : (piece ++ [b]).length = piece.length + 1 := by simp
  refine ⟨?_, ?_, ?_, ?_, ?_⟩
  · simp [h.flatten]
  · exact List.forall_mem_cons.2 ⟨by simp, h.nonempty⟩
  · exact List.forall_mem_cons.2 ⟨hlen ▸ room, h.short⟩
  · exact List.forall_mem_cons.2 ⟨by rwa [List.dropLast_concat], h.inner⟩
  · cases ps with
    | nil => exact nofun
    | cons p ps =>
      rw [List.dropLast_cons_cons]
      refine List.forall_mem_cons.2 ⟨?_, h.full⟩
      rw [List.getLast?_concat, hlen]
      exact hb.imp (congrArg some) (Nat.le_antisymm room)

/-- Cutting a stream frames it. -/
theorem framing_cut (room : piece.length < limit) (hpiece : newline ∉ piece) :
    Framing limit (piece ++ stream) (cut limit piece stream) := by
  induction stream generalizing piece with
  | nil =>
    rw [List.append_nil]
    cases piece with
    | nil => exact framing_nil limit
    | cons c piece =>
      exact framing_singleton (List.cons_ne_nil c piece) (Nat.le_of_lt room)
        fun h => hpiece (List.dropLast_subset _ h)
  | cons b rest ih =>
    by_cases hb : Ends limit piece b
    · rw [cut_of_ends hb]
      exact (@ih [] (Nat.zero_lt_of_lt room) List.not_mem_nil).cons room hpiece hb
    · obtain ⟨hne, hroom⟩ := not_or.1 hb
      rw [cut_of_not_ends hb, List.append_cons]
      exact ih (by simpa using hroom) (by simpa using ⟨hpiece, Ne.symm hne⟩)

/-! ### There is no other framing -/

/-- Bytes that end no piece all belong to the current one. -/
theorem cut_append (h : newline ∉ p) (room : piece.length + p.length < limit) :
    cut limit piece (p ++ stream) = cut limit (piece ++ p) stream := by
  refine cut_of_incomplete (by omega) ?_ stream
  unfold pieceLength
  rw [List.idxOf_eq_length h]
  omega

/-- The pieces after the first one frame the rest of the stream. -/
theorem Framing.tail (h : Framing limit bytes (p :: ps)) : Framing limit ps.flatten ps := by
  refine ⟨rfl, fun q hq => h.nonempty q (.tail p hq), fun q hq => h.short q (.tail p hq),
    fun q hq => h.inner q (.tail p hq), ?_⟩
  cases ps with
  | nil => exact nofun
  | cons q ps => exact fun r hr => h.full r (.tail p hr)

/-- The first piece is what the reader cuts off. -/
theorem Framing.cut_eq (h : Framing limit bytes (p :: ps)) :
    cut limit [] bytes = p :: cut limit [] ps.flatten := by
  have hinner := h.inner p List.mem_cons_self
  have hshort := h.short p List.mem_cons_self
  rcases p.eq_nil_or_concat with rfl | ⟨q, b, rfl⟩
  · exact absurd rfl (h.nonempty [] List.mem_cons_self)
  rw [List.concat_eq_append, List.dropLast_concat] at hinner
  simp only [List.concat_eq_append, List.length_append, List.length_singleton] at hshort
  have hbytes : bytes = q ++ b :: ps.flatten := by simp [← h.flatten]
  by_cases hb : Ends limit q b
  · have hroom : ([] : Bytes).length + q.length < limit := by
      simpa using Nat.lt_of_succ_le hshort
    rw [hbytes, cut_append hinner hroom, List.nil_append, cut_of_ends hb, List.concat_eq_append]
  · -- Only the last piece of a stream can be incomplete.
    obtain ⟨hne, hroom⟩ := not_or.1 hb
    cases ps with
    | cons p ps =>
      have hfull := h.full (q.concat b) List.mem_cons_self
      simp only [List.concat_eq_append, List.getLast?_concat, Option.some.injEq,
        List.length_append, List.length_singleton] at hfull
      exact absurd (hfull.imp_right Eq.ge) hb
    | nil =>
      have hcut : cut limit [] ((q ++ [b]) ++ []) = cut limit (q ++ [b]) [] :=
        cut_append (by simpa using ⟨hinner, Ne.symm hne⟩) (by simpa using hroom)
      simpa [hbytes, cut] using hcut

theorem framing_iff_cut (hlimit : 0 < limit) :
    Framing limit bytes ps ↔ ps = cut limit [] bytes := by
  constructor
  · intro h
    induction ps generalizing bytes with
    | nil =>
      obtain rfl : [] = bytes := h.flatten
      rfl
    | cons p ps ih => rw [h.cut_eq, ← ih h.tail]
  · rintro rfl
    exact framing_cut hlimit List.not_mem_nil

/-- The text of a piece has no line feed, as the one that may end it is taken off. -/
theorem newline_notMem_pieceText (hp : newline ∉ p.dropLast) : '\n' ∉ pieceText p := by
  have notMem_trim {t : Text} (ht : '\n' ∉ t) : '\n' ∉ t.trim := fun h => ht (Text.trim_subset t h)
  unfold pieceText
  rcases p.eq_nil_or_concat with rfl | ⟨q, b, rfl⟩
  · exact notMem_trim nofun
  rw [List.concat_eq_append, List.dropLast_concat] at hp
  rw [List.concat_eq_append]
  by_cases hb : b = newline
  · rw [hb, newline, Utf8.decode_append_newline hp, Text.trim_append_blank (by decide)]
    exact notMem_trim (Utf8.newline_notMem_decode hp)
  · refine notMem_trim (Utf8.newline_notMem_decode ?_)
    simpa using ⟨hp, Ne.symm hb⟩

/-! ### What a reader hands out -/

/-- A poll that has an answer has it from a piece or from the end of the stream. -/
theorem pollPiece_of_poll {r : LineReader} {t : Option Text} (h : r.poll.1 = .ready (.ok t)) :
    ∃ piece : Option Bytes, r.pollPiece.1 = .ready (.ok piece) ∧ piece.map pieceText = t := by
  rw [poll_eq] at h
  match hpoll : r.pollPiece.1 with
  | .pending => simp [hpoll, Poll.mapFound] at h
  | .ready (.error _) => simp [hpoll, Poll.mapFound] at h
  | .ready (.ok piece) =>
    rw [hpoll] at h
    exact ⟨piece, rfl, Except.ok.inj (Poll.ready.inj h)⟩

namespace Reading

variable {g : Reading}

/-- The end is reported exactly when there is nothing more to hand out. -/
theorem Sound.poll_eq_none_iff (h : Sound limit g) :
    g.reader.poll.1 = .ready (.ok none) ↔
      g.reader.tail = .closed ∧ g.pieces = cut limit [] g.written := by
  have hroom : g.reader.buffer.length < g.reader.limit := h.limit_eq ▸ h.room
  constructor
  · intro hpoll
    obtain ⟨piece, hpiece, hnone⟩ := pollPiece_of_poll hpoll
    obtain rfl := Option.map_eq_none_iff.1 hnone
    have hpolls := polls_pollPiece g.reader
    rw [hpiece] at hpolls
    generalize g.reader.pollPiece.2 = r' at hpolls
    cases hpolls with
    | ended closed nothing =>
      obtain ⟨hbuffer, harrived⟩ := List.append_eq_nil_iff.1 nothing
      rw [h.cut_written, hbuffer, harrived]
      exact ⟨closed, (List.append_nil _).symm⟩
  · rintro ⟨closed, hall⟩
    have hrest : cut limit g.reader.buffer g.reader.arrived = [] := by
      simpa [hall] using h.cut_written
    rw [← h.limit_eq] at hrest
    rcases poll_of_closed closed hroom with ⟨r', hpoll, -⟩ | ⟨piece, r', -, -, -, hcut⟩
    · rw [hpoll]
    · cases hrest.symm.trans hcut

/-- What is handed out is the next piece. -/
theorem Sound.exists_piece {t : Text} (h : Sound limit g)
    (hpoll : g.reader.poll.1 = .ready (.ok (some t))) :
    ∃ piece, g.reader.pollPiece.1 = .ready (.ok (some piece)) ∧
      g.pieces ++ [piece] <+: cut limit [] g.written ∧ t = pieceText piece := by
  obtain ⟨piece, hpiece, hsome⟩ := pollPiece_of_poll hpoll
  obtain ⟨p, rfl, rfl⟩ := Option.map_eq_some_iff.1 hsome
  have hnext := h.poll.isPrefix
  rw [hpiece] at hnext
  exact ⟨p, hpiece, hnext, rfl⟩

/-- However a stream arrives and whichever polls are given up, the pieces that a reader hands out
    are those of the only framing of the stream, in order. Their texts are on one line each, and the
    end is reported exactly when the stream is at its end and all pieces were handed out; a reader
    that is polled on gets there. A limit of zero acts as one. -/
theorem pieces_framing (run : Relation.ReflTransGen Step (start limit) g) :
    (∃! ps, Framing (max limit 1) g.written ps) ∧
    ∀ ps, Framing (max limit 1) g.written ps →
      g.pieces <+: ps ∧
      (∀ t, g.reader.poll.1 = .ready (.ok (some t)) → ∃ piece,
        g.reader.pollPiece.1 = .ready (.ok (some piece)) ∧ g.pieces ++ [piece] <+: ps ∧
        t = (Utf8.decode piece).trim ∧ '\n' ∉ t) ∧
      (g.reader.poll.1 = .ready (.ok none) ↔ g.reader.tail = .closed ∧ g.pieces = ps) ∧
      (g.reader.tail = .closed →
        ∃ ts, HandsOut g.reader ts ∧ g.pieces.map pieceText ++ ts = ps.map pieceText) := by
  have sound := sound_of_run run
  have hlimit : 0 < max limit 1 := Nat.lt_of_lt_of_le Nat.one_pos (Nat.le_max_right limit 1)
  refine ⟨⟨_, (framing_iff_cut hlimit).2 rfl, fun ps => (framing_iff_cut hlimit).1⟩, ?_⟩
  intro ps hps
  have hcut := (framing_iff_cut hlimit).1 hps
  have hroom : g.reader.buffer.length < g.reader.limit := sound.limit_eq ▸ sound.room
  refine ⟨hcut ▸ sound.isPrefix, fun t hpoll => ?_, hcut ▸ sound.poll_eq_none_iff, fun closed => ?_⟩
  · obtain ⟨piece, hpiece, hfirst, rfl⟩ := sound.exists_piece hpoll
    rw [← hcut] at hfirst
    have hmem : piece ∈ ps := hfirst.subset (List.mem_append_right _ List.mem_cons_self)
    exact ⟨piece, hpiece, hfirst, rfl, newline_notMem_pieceText (hps.inner piece hmem)⟩
  · refine ⟨_, (handsOut_iff_cut closed hroom).2 rfl, ?_⟩
    rw [hcut, sound.cut_written, List.map_append, sound.limit_eq]

/-- A stream of `ab`, a given-up poll, `cd` and a line feed, a poll, and the end of the stream: one
    piece as long as the limit was handed out, and one more is to come. -/
theorem pieces_framing_chunks :
    Relation.ReflTransGen Step (start 3)
        ⟨⟨3, [100, 10], .closed, [], false⟩, [97, 98, 99, 100, 10], [[97, 98, 99]]⟩ ∧
      ∃ ps, Framing 3 [97, 98, 99, 100, 10] ps ∧ [[97, 98, 99]] <+: ps ∧
        ∃ ts, HandsOut ⟨3, [100, 10], .closed, [], false⟩ ts ∧
          "abc".toList :: ts = ps.map pieceText := by
  have run : Relation.ReflTransGen Step (start 3)
      ⟨⟨3, [100, 10], .closed, [], false⟩, [97, 98, 99, 100, 10], [[97, 98, 99]]⟩ :=
    Relation.ReflTransGen.refl.tail (.deliver [97, 98] rfl) |>.tail .poll
      |>.tail (.deliver [99, 100, 10] rfl) |>.tail .poll |>.tail (.close rfl)
  obtain ⟨⟨ps, hps, -⟩, hall⟩ := pieces_framing run
  obtain ⟨hfirst, -, -, hrest⟩ := hall ps hps
  obtain ⟨ts, hts, htexts⟩ := hrest rfl
  exact ⟨run, ps, hps, hfirst, ts, hts, htexts⟩

end Reading

end Overseer.LineReader
