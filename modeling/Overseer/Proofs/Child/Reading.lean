import Mathlib.Data.List.Basic
import Mathlib.Logic.Relation
import Overseer.Child.LineReader

/-! ## Reading a stream

`cut` says, byte by byte, what the pieces of a stream are. A `Reading` is a stream together with its
reader, and its steps are all that can happen to the two: bytes arrive, the stream ends or breaks
off, the reader is polled. However these alternate, the pieces that are handed out are the first
pieces of the stream, and they are all of them once its end was reported. -/

namespace Overseer

namespace Poll

/-- What a poll has found, if it has found something. -/
def found {α : Type} : Poll (Except Text (Option α)) → List α
  | .ready (.ok (some a)) => [a]
  | _ => []

/-- Changes what a poll has found. -/
def mapFound {α β : Type} (f : α → β) :
    Poll (Except Text (Option α)) → Poll (Except Text (Option β))
  | .pending => .pending
  | .ready (.error reason) => .ready (.error reason)
  | .ready (.ok a) => .ready (.ok (a.map f))

end Poll

namespace LineReader

variable {limit : Nat} {piece stream bytes : Bytes} {b : UInt8} {rest : Bytes} {r r' : LineReader}

/-! ### Cutting a stream -/

/-- The byte is the last one of a piece that begins with `piece`. -/
abbrev Ends (limit : Nat) (piece : Bytes) (b : UInt8) : Prop :=
  b = newline ∨ limit ≤ piece.length + 1

/-- The pieces of a stream of which `piece` was read already. -/
def cut (limit : Nat) : Bytes → Bytes → List Bytes
  | piece, [] => if piece.isEmpty then [] else [piece]
  | piece, b :: rest =>
    if Ends limit piece b then (piece ++ [b]) :: cut limit [] rest
    else cut limit (piece ++ [b]) rest

/-- The texts of the pieces of a stream. -/
def texts (limit : Nat) (bytes : Bytes) : List Text := (cut limit [] bytes).map pieceText

theorem cut_of_ends (h : Ends limit piece b) :
    cut limit piece (b :: rest) = (piece ++ [b]) :: cut limit [] rest := if_pos h

theorem cut_of_not_ends (h : ¬ Ends limit piece b) :
    cut limit piece (b :: rest) = cut limit (piece ++ [b]) rest := if_neg h

/-- A limit of zero acts as one. -/
theorem cut_max_one (limit : Nat) (piece stream : Bytes) :
    cut (max limit 1) piece stream = cut limit piece stream := by
  induction stream generalizing piece with
  | nil => rfl
  | cons b rest ih =>
    have hends : Ends (max limit 1) piece b ↔ Ends limit piece b := by
      refine or_congr_right ?_
      omega
    by_cases hb : Ends limit piece b
    · rw [cut_of_ends hb, cut_of_ends (hends.2 hb), ih]
    · rw [cut_of_not_ends hb, cut_of_not_ends (mt hends.1 hb), ih]

/-! ### The length of a piece -/

theorem pieceLength_of_ends (room : piece.length < limit) (h : Ends limit piece b) :
    pieceLength (limit - piece.length) (b :: rest) = 1 := by
  unfold pieceLength
  rcases h with rfl | full
  · rw [List.idxOf_cons_self]
    omega
  · omega

theorem pieceLength_of_not_ends (h : ¬ Ends limit piece b) :
    pieceLength (limit - piece.length) (b :: rest) =
      pieceLength (limit - (piece ++ [b]).length) rest + 1 := by
  obtain ⟨hb, _⟩ := not_or.1 h
  unfold pieceLength
  rw [List.idxOf_cons_ne _ hb, List.length_append, List.length_singleton]
  omega

/-- A piece takes at least one byte. -/
theorem pieceLength_pos (room : piece.length < limit) :
    0 < pieceLength (limit - piece.length) stream := by
  unfold pieceLength
  omega

/-- If the stream has all bytes of its first piece, the piece is cut off. -/
theorem cut_of_complete (room : piece.length < limit)
    (complete : pieceLength (limit - piece.length) stream ≤ stream.length) (more : Bytes) :
    cut limit piece (stream ++ more) =
      (piece ++ stream.take (pieceLength (limit - piece.length) stream)) ::
        cut limit [] (stream.drop (pieceLength (limit - piece.length) stream) ++ more) := by
  induction stream generalizing piece with
  | nil => exact absurd complete (Nat.not_le.2 (pieceLength_pos room))
  | cons b rest ih =>
    by_cases hb : Ends limit piece b
    · rw [pieceLength_of_ends room hb]
      exact cut_of_ends hb
    · have hroom : (piece ++ [b]).length < limit := by
        rw [List.length_append, List.length_singleton]
        omega
      rw [pieceLength_of_not_ends hb] at complete ⊢
      have hcut : cut limit piece (b :: rest ++ more) = cut limit (piece ++ [b]) (rest ++ more) :=
        cut_of_not_ends hb
      rw [hcut, ih hroom (Nat.le_of_succ_le_succ complete), List.take_succ_cons,
        List.drop_succ_cons, List.append_assoc]
      rfl

/-- If it has not, all its bytes belong to that piece. -/
theorem cut_of_incomplete (room : piece.length < limit)
    (incomplete : stream.length < pieceLength (limit - piece.length) stream) (more : Bytes) :
    cut limit piece (stream ++ more) = cut limit (piece ++ stream) more := by
  induction stream generalizing piece with
  | nil => rw [List.nil_append, List.append_nil]
  | cons b rest ih =>
    by_cases hb : Ends limit piece b
    · rw [pieceLength_of_ends room hb] at incomplete
      exact absurd incomplete (Nat.not_lt.2 (Nat.le_add_left 1 rest.length))
    · have hroom : (piece ++ [b]).length < limit := by
        rw [List.length_append, List.length_singleton]
        omega
      rw [pieceLength_of_not_ends hb] at incomplete
      have hcut : cut limit piece (b :: rest ++ more) = cut limit (piece ++ [b]) (rest ++ more) :=
        cut_of_not_ends hb
      rw [hcut, ih hroom (Nat.lt_of_succ_lt_succ incomplete), List.append_assoc]
      rfl

/-- Bytes that do not complete a piece leave room in it. -/
theorem room_of_incomplete
    (incomplete : stream.length < pieceLength (limit - piece.length) stream) :
    (piece ++ stream).length < limit := by
  unfold pieceLength at incomplete
  rw [List.length_append]
  omega

/-! ### Polling -/

/-- How many bytes the current piece of a reader takes from those that arrive. -/
abbrev wanted (r : LineReader) : Nat := pieceLength (r.limit - r.buffer.length) r.arrived

/-- All ways in which a poll can go. -/
inductive Polls (r : LineReader) : Poll (Except Text (Option Bytes)) → LineReader → Prop
  | piece (complete : r.wanted ≤ r.arrived.length) :
      Polls r (.ready (.ok (some (r.buffer ++ r.arrived.take r.wanted))))
        { r with buffer := [], arrived := r.arrived.drop r.wanted }
  | pending (incomplete : r.arrived.length < r.wanted) (opened : r.tail = .opened) :
      Polls r .pending { r with buffer := r.buffer ++ r.arrived, arrived := [] }
  | failed {reason : Text} (incomplete : r.arrived.length < r.wanted)
      (broken : r.tail = .broken reason) :
      Polls r (.ready (.error reason)) { r with buffer := r.buffer ++ r.arrived, arrived := [] }
  | last (incomplete : r.arrived.length < r.wanted) (closed : r.tail = .closed)
      (left : r.buffer ++ r.arrived ≠ []) :
      Polls r (.ready (.ok (some (r.buffer ++ r.arrived)))) { r with buffer := [], arrived := [] }
  | ended (closed : r.tail = .closed) (nothing : r.buffer ++ r.arrived = []) :
      Polls r (.ready (.ok none)) { r with ended := true }

theorem polls_pollPiece (r : LineReader) : Polls r r.pollPiece.1 r.pollPiece.2 := by
  unfold pollPiece
  by_cases complete : r.wanted ≤ r.arrived.length
  · rw [if_pos (List.length_take_of_le complete)]
    exact .piece complete
  · have incomplete : r.arrived.length < r.wanted := Nat.not_le.1 complete
    have htaken : (r.arrived.take r.wanted).length ≠ r.wanted := by
      rw [List.length_take]
      omega
    rw [if_neg htaken]
    obtain ⟨limit, arrived, tail, buffer, ended⟩ := r
    cases tail with
    | opened => exact .pending incomplete rfl
    | broken reason => exact .failed incomplete rfl
    | closed =>
      dsimp only
      by_cases hleft : buffer ++ arrived = []
      · rw [if_pos (List.isEmpty_iff.2 hleft)]
        exact .ended rfl hleft
      · rw [if_neg (mt List.isEmpty_iff.1 hleft)]
        exact .last incomplete rfl hleft

theorem Polls.limit_eq {answer : Poll (Except Text (Option Bytes))} (h : Polls r answer r') :
    r'.limit = r.limit := by
  cases h <;> rfl

theorem Polls.tail_eq {answer : Poll (Except Text (Option Bytes))} (h : Polls r answer r') :
    r'.tail = r.tail := by
  cases h <;> rfl

/-- A poll leaves room in the current piece. -/
theorem Polls.room {answer : Poll (Except Text (Option Bytes))} (h : Polls r answer r')
    (room : r.buffer.length < r.limit) : r'.buffer.length < r'.limit := by
  have hlimit : 0 < r.limit := Nat.zero_lt_of_lt room
  cases h with
  | piece _ => exact hlimit
  | pending incomplete _ => exact room_of_incomplete incomplete
  | failed incomplete _ => exact room_of_incomplete incomplete
  | last _ _ _ => exact hlimit
  | ended _ _ => exact room

/-- A poll takes the first piece off the pieces that are still to come, or leaves them as they are.
    Nothing comes after a stream that is not open. -/
theorem Polls.cut_eq {answer : Poll (Except Text (Option Bytes))} (h : Polls r answer r')
    (room : r.buffer.length < r.limit) {more : Bytes} (hmore : r.tail = .opened ∨ more = []) :
    cut r.limit r.buffer (r.arrived ++ more) =
      answer.found ++ cut r'.limit r'.buffer (r'.arrived ++ more) := by
  cases h with
  | piece complete => exact cut_of_complete room complete more
  | pending incomplete _ => exact cut_of_incomplete room incomplete more
  | failed incomplete _ => exact cut_of_incomplete room incomplete more
  | last incomplete closed left =>
    obtain rfl : more = [] := hmore.resolve_left (by rw [closed]; nofun)
    have hpiece : cut r.limit (r.buffer ++ r.arrived) [] = [r.buffer ++ r.arrived] :=
      if_neg (mt List.isEmpty_iff.1 left)
    exact (cut_of_incomplete room incomplete []).trans hpiece
  | ended _ _ => rfl

theorem poll_eq (r : LineReader) : r.poll = (r.pollPiece.1.mapFound pieceText, r.pollPiece.2) := by
  unfold poll
  match r.pollPiece with
  | (.pending, _) => rfl
  | (.ready (.error _), _) => rfl
  | (.ready (.ok _), _) => rfl

/-! ### Steps of a reading -/

/-- A stream and its reader. -/
structure Reading where
  reader : LineReader
  /-- All bytes that were written to the stream. -/
  written : Bytes
  /-- The pieces that the reader has handed out. -/
  pieces : List Bytes

namespace Reading

variable {g g' : Reading}

/-- Nothing has happened yet. -/
def start (limit : Nat) : Reading := ⟨.ofLimit limit, [], []⟩

inductive Step (g : Reading) : Reading → Prop
  | deliver (bytes : Bytes) (opened : g.reader.tail = .opened) :
      Step g { g with reader := g.reader.deliver bytes, written := g.written ++ bytes }
  | close (opened : g.reader.tail = .opened) : Step g { g with reader := g.reader.close }
  | breakOff (reason : Text) (opened : g.reader.tail = .opened) :
      Step g { g with reader := { g.reader with tail := .broken reason } }
  | poll : Step g ⟨g.reader.pollPiece.2, g.written, g.pieces ++ g.reader.pollPiece.1.found⟩

/-- What was handed out are the first pieces of the stream, whatever is still written to it, and the
    reader goes on where they end. -/
structure Sound (limit : Nat) (g : Reading) : Prop where
  limit_eq : g.reader.limit = limit
  room : g.reader.buffer.length < limit
  cut_eq : ∀ more, g.reader.tail = .opened ∨ more = [] →
    cut limit [] (g.written ++ more) =
      g.pieces ++ cut limit g.reader.buffer (g.reader.arrived ++ more)
  ended : g.reader.ended = true →
    g.reader.tail = .closed ∧ g.reader.buffer = [] ∧ g.reader.arrived = []

theorem sound_start (limit : Nat) : Sound (max limit 1) (start limit) := by
  refine ⟨rfl, ?_, fun more _ => rfl, nofun⟩
  exact Nat.lt_of_lt_of_le Nat.one_pos (Nat.le_max_right limit 1)

/-- A stream that is open has not ended. -/
theorem Sound.not_ended (h : Sound limit g) (opened : g.reader.tail = .opened) :
    g.reader.ended ≠ true := by
  intro ended
  obtain ⟨closed, _, _⟩ := h.ended ended
  cases closed.symm.trans opened

/-- A reader that has reported the end has no more bytes. -/
theorem Sound.incomplete (h : Sound limit g) (ended : g.reader.ended = true) :
    g.reader.arrived.length < g.reader.wanted := by
  obtain ⟨_, _, harrived⟩ := h.ended ended
  have hroom : g.reader.buffer.length < g.reader.limit := h.limit_eq ▸ h.room
  have hwanted : 0 < g.reader.wanted := pieceLength_pos hroom
  rw [harrived]
  exact hwanted

theorem Sound.poll (h : Sound limit g) :
    Sound limit ⟨g.reader.pollPiece.2, g.written, g.pieces ++ g.reader.pollPiece.1.found⟩ := by
  have hincomplete := h.incomplete
  obtain ⟨r, written, pieces⟩ := g
  obtain ⟨rfl, room, hcut, hended⟩ := h
  have hpoll := polls_pollPiece r
  generalize r.pollPiece.1 = answer at hpoll ⊢
  generalize r.pollPiece.2 = r' at hpoll ⊢
  refine ⟨hpoll.limit_eq, hpoll.limit_eq ▸ hpoll.room room, fun more hmore => ?_, ?_⟩
  · rw [hpoll.tail_eq] at hmore
    have hrest := hpoll.cut_eq room hmore
    rw [hpoll.limit_eq] at hrest
    rw [hcut more hmore, hrest, List.append_assoc]
  · -- Only the report of the end marks a reader as ended, and it finds the stream used up.
    cases hpoll with
    | piece complete =>
      intro ended
      exact absurd (hincomplete ended) (Nat.not_lt.2 complete)
    | pending _ opened =>
      intro ended
      cases opened.symm.trans (hended ended).1
    | failed _ broken =>
      intro ended
      cases broken.symm.trans (hended ended).1
    | last _ closed _ => exact fun _ => ⟨closed, rfl, rfl⟩
    | ended closed nothing => exact fun _ => ⟨closed, List.append_eq_nil_iff.1 nothing⟩

theorem Step.sound (h : Step g g') (hg : Sound limit g) : Sound limit g' := by
  cases h with
  | deliver bytes opened =>
    refine ⟨hg.limit_eq, hg.room, fun more _ => ?_, fun ended => absurd ended (hg.not_ended opened)⟩
    have hcut := hg.cut_eq (bytes ++ more) (.inl opened)
    rw [← List.append_assoc, ← List.append_assoc] at hcut
    exact hcut
  | close opened =>
    refine ⟨hg.limit_eq, hg.room, fun more _ => ?_, fun ended => absurd ended (hg.not_ended opened)⟩
    exact hg.cut_eq more (.inl opened)
  | breakOff reason opened =>
    refine ⟨hg.limit_eq, hg.room, fun more _ => ?_, fun ended => absurd ended (hg.not_ended opened)⟩
    exact hg.cut_eq more (.inl opened)
  | poll => exact hg.poll

theorem sound_of_run (h : Relation.ReflTransGen Step (start limit) g) : Sound (max limit 1) g := by
  induction h with
  | refl => exact sound_start limit
  | tail _ step ih => exact step.sound ih

/-- Nothing happens to a stream any more when its end was reported. -/
theorem Step.eq_of_ended (h : Step g g') (hg : Sound limit g) (ended : g.reader.ended = true) :
    g' = g := by
  cases h with
  | deliver _ opened => exact absurd ended (hg.not_ended opened)
  | close opened => exact absurd ended (hg.not_ended opened)
  | breakOff _ opened => exact absurd ended (hg.not_ended opened)
  | poll =>
    have hincomplete := hg.incomplete ended
    obtain ⟨closed, hbuffer, harrived⟩ := hg.ended ended
    obtain ⟨r, written, pieces⟩ := g
    have hpoll := polls_pollPiece r
    generalize r.pollPiece.1 = answer at hpoll ⊢
    generalize r.pollPiece.2 = r' at hpoll ⊢
    cases hpoll with
    | piece complete => exact absurd hincomplete (Nat.not_lt.2 complete)
    | pending _ opened => cases closed.symm.trans opened
    | failed _ broken => cases closed.symm.trans broken
    | last _ _ left => exact absurd (List.append_eq_nil_iff.2 ⟨hbuffer, harrived⟩) left
    | ended _ _ =>
      obtain ⟨limit, arrived, tail, buffer, ended'⟩ := r
      obtain rfl : ended' = true := ended
      exact congrArg (Reading.mk _ _) (List.append_nil pieces)

/-- What is still to be handed out when nothing more is written. -/
theorem Sound.cut_written (h : Sound limit g) :
    cut limit [] g.written = g.pieces ++ cut limit g.reader.buffer g.reader.arrived := by
  simpa using h.cut_eq [] (.inr rfl)

/-- What was handed out are the first pieces of what was written. -/
theorem Sound.isPrefix (h : Sound limit g) : g.pieces <+: cut limit [] g.written :=
  ⟨_, h.cut_written.symm⟩

/-- At the end they are all its pieces. -/
theorem Sound.pieces_eq (h : Sound limit g) (ended : g.reader.ended = true) :
    g.pieces = cut limit [] g.written := by
  obtain ⟨_, hbuffer, harrived⟩ := h.ended ended
  rw [h.cut_written, hbuffer, harrived]
  exact (List.append_nil g.pieces).symm

end Reading

/-! ### What a reader hands out -/

/-- What a reader to which nothing more is written hands out, text by text. -/
inductive HandsOut : LineReader → List Text → Prop
  | ended {r r' : LineReader} (poll : r.poll = (.ready (.ok none), r')) : HandsOut r []
  | text {r r' : LineReader} {t : Text} {ts : List Text}
      (poll : r.poll = (.ready (.ok (some t)), r')) (rest : HandsOut r' ts) : HandsOut r (t :: ts)

/-- Polling a reader to which nothing more is written cuts off its first piece, if it has one. -/
theorem poll_of_closed (closed : r.tail = .closed) (room : r.buffer.length < r.limit) :
    (∃ r', r.poll = (.ready (.ok none), r') ∧ cut r.limit r.buffer r.arrived = []) ∨
      ∃ piece r', r.poll = (.ready (.ok (some (pieceText piece))), r') ∧ r'.tail = .closed ∧
        r'.buffer.length < r'.limit ∧
        cut r.limit r.buffer r.arrived = piece :: cut r'.limit r'.buffer r'.arrived := by
  have hpoll := polls_pollPiece r
  rw [poll_eq]
  generalize r.pollPiece.1 = answer at hpoll ⊢
  generalize r.pollPiece.2 = r' at hpoll ⊢
  have hroom := hpoll.room room
  have hcut := hpoll.cut_eq room (.inr rfl)
  rw [List.append_nil, List.append_nil] at hcut
  cases hpoll with
  | piece _ => exact .inr ⟨_, _, rfl, closed, hroom, hcut⟩
  | pending _ opened => cases closed.symm.trans opened
  | failed _ broken => cases closed.symm.trans broken
  | last _ _ _ => exact .inr ⟨_, _, rfl, closed, hroom, hcut⟩
  | ended _ nothing =>
    obtain ⟨hbuffer, harrived⟩ := List.append_eq_nil_iff.1 nothing
    refine .inl ⟨_, rfl, ?_⟩
    rw [hbuffer, harrived]
    rfl

theorem handsOut_iff_cut (closed : r.tail = .closed) (room : r.buffer.length < r.limit)
    {ts : List Text} :
    HandsOut r ts ↔ ts = (cut r.limit r.buffer r.arrived).map pieceText := by
  constructor
  · intro h
    induction h with
    | ended poll =>
      rcases poll_of_closed closed room with ⟨_, _, hcut⟩ | ⟨_, _, hpoll, _⟩
      · rw [hcut]
        rfl
      · cases poll.symm.trans hpoll
    | text poll _ ih =>
      rcases poll_of_closed closed room with ⟨_, hpoll, _⟩ | ⟨_, _, hpoll, closed', room', hcut⟩
      · cases poll.symm.trans hpoll
      · cases poll.symm.trans hpoll
        rw [hcut, ih closed' room']
        rfl
  · rintro rfl
    generalize hpieces : cut r.limit r.buffer r.arrived = pieces
    induction pieces generalizing r with
    | nil =>
      rcases poll_of_closed closed room with ⟨_, hpoll, _⟩ | ⟨_, _, _, _, _, hcut⟩
      · exact .ended hpoll
      · cases hpieces.symm.trans hcut
    | cons piece pieces ih =>
      rcases poll_of_closed closed room with ⟨_, _, hcut⟩ | ⟨_, _, hpoll, closed', room', hcut⟩
      · cases hpieces.symm.trans hcut
      · obtain ⟨rfl, hrest⟩ := List.cons.inj (hcut.symm.trans hpieces)
        exact .text hpoll (ih closed' room' hrest)

/-- What a reader hands out of a stream that has arrived as a whole are the texts of its pieces. -/
theorem handsOut_iff (limit : Nat) (bytes : Bytes) (ts : List Text) :
    HandsOut ((ofLimit limit).deliver bytes).close ts ↔ ts = texts limit bytes := by
  have hcut := @handsOut_iff_cut ((ofLimit limit).deliver bytes).close rfl
    (Nat.lt_of_lt_of_le Nat.one_pos (Nat.le_max_right limit 1)) ts
  change _ ↔ ts = (cut (max limit 1) [] bytes).map pieceText at hcut
  rw [cut_max_one] at hcut
  exact hcut

end LineReader
end Overseer
