import Mathlib.Algebra.BigOperators.Group.List.Basic
import Overseer.Proofs.Child.Lines
import Overseer.Proofs.Text.Utf8Size

/-! ## What a reader holds

Between polls a reader holds less of a line than the limit, however long the lines are, and the
texts that it hands out are bounded too. Each text stands for bytes of its own, so a stream that ends
is read to its end in as many texts as it has bytes at most. -/

namespace Overseer.LineReader

variable {limit : Nat} {bytes : Bytes} {ps : List Bytes} {r r' : LineReader} {b : UInt8}

/-! ### One poll -/

/-- The bytes that have arrived and were not handed out. -/
def held (r : LineReader) : Bytes := r.buffer ++ r.arrived

/-- Bytes that do not complete a piece have no line feed. -/
theorem newline_notMem_of_incomplete (h : r.arrived.length < r.wanted) : newline ∉ r.arrived := by
  unfold wanted pieceLength at h
  rw [← List.idxOf_lt_length_iff]
  omega

theorem Polls.newline_notMem {answer : Poll (Except Text (Option Bytes))} (h : Polls r answer r')
    (single : newline ∉ r.buffer) : newline ∉ r'.buffer := by
  have append_arrived (incomplete : r.arrived.length < r.wanted) :
      newline ∉ r.buffer ++ r.arrived := by
    rw [List.mem_append, not_or]
    exact ⟨single, newline_notMem_of_incomplete incomplete⟩
  cases h with
  | piece _ => exact List.not_mem_nil
  | pending incomplete _ => exact append_arrived incomplete
  | failed incomplete _ => exact append_arrived incomplete
  | last _ _ _ => exact List.not_mem_nil
  | ended _ _ => exact single

/-- What is handed out is not empty and no longer than the limit, and it is no longer held. -/
theorem Polls.piece_bounds {piece : Bytes} (h : Polls r (.ready (.ok (some piece))) r')
    (room : r.buffer.length < r.limit) :
    piece ≠ [] ∧ piece.length ≤ r.limit ∧ r.held = piece ++ r'.held := by
  cases h with
  | piece complete =>
    have hpos : 0 < r.wanted := pieceLength_pos room
    have hroom : r.wanted ≤ r.limit - r.buffer.length := Nat.min_le_left _ _
    refine ⟨?_, ?_, ?_⟩
    · rw [← List.length_pos_iff, List.length_append, List.length_take_of_le complete]
      omega
    · rw [List.length_append, List.length_take_of_le complete]
      omega
    · simp [held]
  | last incomplete _ left =>
    exact ⟨left, Nat.le_of_lt (room_of_incomplete incomplete), (List.append_nil _).symm⟩

/-! ### Sizes of texts -/

theorem size_pieceText_le (piece : Bytes) : Utf8.size (pieceText piece) ≤ 3 * piece.length :=
  (Utf8.size_trim_le _).trans (Utf8.size_decode_le piece)

/-- Bytes that begin no sequence make the largest texts. -/
theorem pieceText_replicate (h : Utf8.lead b = .invalid) (n : Nat) :
    pieceText (List.replicate n b) = List.replicate n Utf8.replacement := by
  unfold pieceText
  rw [Utf8.decode_replicate h]
  cases n with
  | zero => rfl
  | succ n =>
    have hword : Text.IsWord (List.replicate (n + 1) Utf8.replacement) :=
      ⟨by simp, fun c hc => List.eq_of_mem_replicate hc ▸ by decide⟩
    exact hword.trim_eq

/-! ### Answers -/

/-- What a poll may answer that leads from one reader to another. A text stands for bytes that were
    held until then, and takes no more than three times the limit. The end is reported when nothing
    is held. -/
inductive Answers (limit : Nat) (r r' : LineReader) : Except Text (Option Text) → Prop
  | ended (closed : r.tail = .closed) (nothing : r.held = []) : Answers limit r r' (.ok none)
  | failed {reason : Text} (broken : r.tail = .broken reason) : Answers limit r r' (.error reason)
  | text {piece : Bytes} (nonempty : piece ≠ []) (taken : r.held = piece ++ r'.held)
      (small : Utf8.size (pieceText piece) ≤ 3 * limit) :
      Answers limit r r' (.ok (some (pieceText piece)))

theorem answers_of_poll {answer : Except Text (Option Text)} (room : r.buffer.length < r.limit)
    (h : r.poll.1 = .ready answer) : Answers r.limit r r.poll.2 answer := by
  have hpoll := polls_pollPiece r
  rw [poll_eq] at h ⊢
  match hfound : r.pollPiece.1 with
  | .pending =>
    rw [hfound] at h
    cases h
  | .ready (.ok none) =>
    rw [hfound] at h hpoll
    cases h
    generalize r.pollPiece.2 = r' at hpoll ⊢
    cases hpoll with
    | ended closed nothing => exact .ended closed nothing
  | .ready (.ok (some piece)) =>
    rw [hfound] at h hpoll
    cases h
    obtain ⟨nonempty, short, taken⟩ := hpoll.piece_bounds room
    exact .text nonempty taken ((size_pieceText_le piece).trans (Nat.mul_le_mul_left 3 short))
  | .ready (.error reason) =>
    rw [hfound] at h hpoll
    cases h
    generalize r.pollPiece.2 = r' at hpoll
    cases hpoll with
    | failed _ broken => exact .failed broken

/-- A stream of as many stray bytes as the limit allows is handed out as one text. -/
theorem handsOut_stray (limit : Nat) :
    HandsOut ((ofLimit limit).deliver (List.replicate (max limit 1) 0xFF)).close
      [List.replicate (max limit 1) Utf8.replacement] := by
  have hlimit : 0 < max limit 1 := Nat.lt_of_lt_of_le Nat.one_pos (Nat.le_max_right limit 1)
  have single : newline ∉ List.replicate (max limit 1) 0xFF := fun h =>
    absurd (List.eq_of_mem_replicate h) (by decide)
  rw [handsOut_iff, texts, ← cut_max_one, cut_rest single List.length_replicate.le hlimit,
    if_neg (by simp), List.map_singleton, pieceText_replicate (by decide)]

/-! ### How many texts there are -/

/-- Every piece has a byte of its own. -/
theorem Framing.length_le (h : Framing limit bytes ps) : ps.length ≤ bytes.length := by
  have hlengths : ∀ n ∈ ps.map List.length, 1 ≤ n := by
    simpa [Nat.one_le_iff_ne_zero] using h.nonempty
  have hsum := List.length_le_sum_of_one_le _ hlengths
  rwa [List.length_map, ← List.length_flatten, h.flatten] at hsum

namespace Reading

variable {g g' : Reading}

theorem Step.newline_notMem (h : Step g g') (single : newline ∉ g.reader.buffer) :
    newline ∉ g'.reader.buffer := by
  cases h with
  | poll => exact (polls_pollPiece g.reader).newline_notMem single
  | deliver _ _ | close _ | breakOff _ _ => exact single

theorem newline_notMem_of_run (run : Relation.ReflTransGen Step (start limit) g) :
    newline ∉ g.reader.buffer := by
  induction run with
  | refl => exact List.not_mem_nil
  | tail _ step ih => exact step.newline_notMem ih

/-- The pieces that were handed out and those that are to come are no more than the bytes. -/
theorem Sound.length_le (h : Sound limit g) :
    g.pieces.length + (cut limit g.reader.buffer g.reader.arrived).length ≤ g.written.length := by
  have hcut := ((framing_iff_cut (Nat.zero_lt_of_lt h.room)).2 h.cut_written.symm).length_le
  rwa [List.length_append] at hcut

/-- However a stream arrives and whichever polls are given up, a reader keeps less of a line than
    the limit, and no line feed. It answers with a text of three times the limit at most, for bytes
    that it held, unless the stream has ended or reading fails. So there are no more texts than bytes,
    and a reader that is polled on after the stream was closed gets to the end with no more. The
    largest texts are those of U+FFFD alone. A limit of zero acts as one. -/
theorem bounded_of_run (run : Relation.ReflTransGen Step (start limit) g) :
    (g.reader.buffer.length < max limit 1 ∧ newline ∉ g.reader.buffer) ∧
    (∀ answer, g.reader.poll.1 = .ready answer →
      Answers (max limit 1) g.reader g.reader.poll.2 answer) ∧
    g.pieces.length ≤ g.written.length ∧
    (g.reader.tail = .closed →
      ∃ ts, HandsOut g.reader ts ∧ g.pieces.length + ts.length ≤ g.written.length) ∧
    ∃ bytes t, bytes.length = max limit 1 ∧ HandsOut ((ofLimit limit).deliver bytes).close [t] ∧
      (∀ c ∈ t, c = Utf8.replacement) ∧ Utf8.size t = 3 * max limit 1 := by
  have sound := sound_of_run run
  have hroom : g.reader.buffer.length < g.reader.limit := sound.limit_eq ▸ sound.room
  refine ⟨⟨sound.room, newline_notMem_of_run run⟩, fun answer hpoll => ?_,
    (Nat.le_add_right _ _).trans sound.length_le, fun closed => ?_, ?_⟩
  · rw [← sound.limit_eq]
    exact answers_of_poll hroom hpoll
  · refine ⟨_, (handsOut_iff_cut closed hroom).2 rfl, ?_⟩
    rw [List.length_map, sound.limit_eq]
    exact sound.length_le
  · refine ⟨_, _, List.length_replicate, handsOut_stray limit,
      fun c => List.eq_of_mem_replicate, ?_⟩
    rw [Utf8.size_replicate, Utf8.utf8Size_replacement, Nat.mul_comm]

/-- A stray byte, a poll that is given up, another one with a line feed and a letter behind it, a
    poll, and the end of the stream: one piece as long as the limit was handed out, and there are two
    bytes more. -/
theorem bounded_of_run_stray :
    let g : Reading := ⟨⟨2, [10, 97], .closed, [], false⟩, [255, 255, 10, 97], [[255, 255]]⟩
    Relation.ReflTransGen Step (start 2) g ∧ newline ∉ g.reader.buffer ∧
      Answers 2 g.reader g.reader.poll.2 (.ok (some [])) ∧
      ∃ ts, HandsOut g.reader ts ∧ 1 + ts.length ≤ 4 := by
  intro g
  have run : Relation.ReflTransGen Step (start 2) g :=
    Relation.ReflTransGen.refl.tail (.deliver [255] rfl) |>.tail .poll
      |>.tail (.deliver [255, 10, 97] rfl) |>.tail .poll |>.tail (.close rfl)
  obtain ⟨⟨-, single⟩, hanswers, -, hrest, -⟩ := bounded_of_run run
  exact ⟨run, single, hanswers _ rfl, hrest rfl⟩

end Reading

end Overseer.LineReader
