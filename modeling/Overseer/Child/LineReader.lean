import Overseer.Text.Utf8

/-! ## Reading lines from a pipe

A line reader takes the bytes of a pipe as they arrive and hands them out in pieces: a piece ends
after a line feed, after `limit` bytes, or where the stream ends. It is polled: as long as its piece
is not complete it keeps the bytes and asks to be polled again, so nothing is lost if the caller
gives up in between. -/

namespace Overseer

/-- What polling comes to. -/
inductive Poll (α : Type) where
  | pending
  | ready (a : α)

/-- What follows the bytes that have arrived. -/
inductive Tail where
  /-- More may arrive. -/
  | opened
  /-- Nothing more: no one is left who could write. -/
  | closed
  /-- Reading on fails. -/
  | broken (reason : Text)
deriving DecidableEq

structure LineReader where
  /-- The most bytes of a piece. -/
  limit : Nat
  /-- The bytes that have arrived and were not taken. -/
  arrived : Bytes
  tail : Tail
  /-- The bytes of the current piece. -/
  buffer : Bytes
  /-- Whether the end of the stream was reported. -/
  ended : Bool
deriving DecidableEq

namespace LineReader

/-- The most bytes of a piece of a child's output. -/
def standardLimit : Nat := 65536

def newline : UInt8 := 0x0A

/-- A reader of a pipe in which nothing has arrived. A limit of zero acts as one. -/
def ofLimit (limit : Nat) : LineReader := ⟨max limit 1, [], .opened, [], false⟩

-- ---------------------------------------------------------------------------
-- The pipe
-- ---------------------------------------------------------------------------

/-- More bytes arrive. -/
def deliver (bytes : Bytes) (r : LineReader) : LineReader := { r with arrived := r.arrived ++ bytes }

/-- The last writer goes away. -/
def close (r : LineReader) : LineReader := { r with tail := .closed }

-- ---------------------------------------------------------------------------
-- Pieces
-- ---------------------------------------------------------------------------

/-- How many bytes a piece takes from a stream if it has room for `room` bytes. If the stream has
    fewer, the piece is not complete. -/
def pieceLength (room : Nat) (stream : Bytes) : Nat := min room (stream.idxOf newline + 1)

/-- The text of a piece. -/
def pieceText (piece : Bytes) : Text := (Utf8.decode piece).trim

/-- Asks for the next piece; `none` stands for the end of the stream. -/
def pollPiece (r : LineReader) : Poll (Except Text (Option Bytes)) × LineReader :=
  let n := pieceLength (r.limit - r.buffer.length) r.arrived
  let taken := r.arrived.take n
  if taken.length = n then
    (.ready (.ok (some (r.buffer ++ taken))), { r with buffer := [], arrived := r.arrived.drop n })
  else
    let rest := r.buffer ++ r.arrived
    match r.tail with
    | .opened => (.pending, { r with buffer := rest, arrived := [] })
    | .broken reason => (.ready (.error reason), { r with buffer := rest, arrived := [] })
    | .closed =>
      if rest.isEmpty then (.ready (.ok none), { r with ended := true })
      else (.ready (.ok (some rest)), { r with buffer := [], arrived := [] })

/-- Asks for the text of the next piece. -/
def poll (r : LineReader) : Poll (Except Text (Option Text)) × LineReader :=
  match r.pollPiece with
  | (.pending, r) => (.pending, r)
  | (.ready (.error reason), r) => (.ready (.error reason), r)
  | (.ready (.ok piece), r) => (.ready (.ok (piece.map pieceText)), r)

end LineReader

end Overseer
