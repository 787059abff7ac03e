import Overseer.Text.Blank

/-! ## Lossy UTF-8 decoding

Well-formed sequences give their characters. In ill-formed input each longest stretch that begins
a well-formed sequence, and each byte that begins none, gives one U+FFFD.

The decoder is fed one byte at a time. Between bytes it remembers the sequence it is in: the bits
so far, the range the next byte has to lie in, and how many bytes follow that one. Ranges narrower
than 80–BF keep out overlong forms, surrogates and values above U+10FFFF. -/

namespace Overseer

/-- Bytes as a child or a file gives them. Paths, arguments and variables are bytes too. -/
abbrev Bytes := List UInt8

namespace Utf8

/-- A sequence that is not complete: the bits so far, the range of the next byte, and how many
    bytes follow the next one. -/
structure Partial where
  bits : Nat
  low : UInt8
  high : UInt8
  more : Nat
deriving DecidableEq

/-- What a byte means at the start of a sequence. -/
inductive Lead where
  | char (c : Char)
  | opens (p : Partial)
  | invalid
deriving DecidableEq

/-- Stands for what cannot be decoded. -/
def replacement : Char := '\uFFFD'

/-- The lead bytes of well-formed sequences and what may follow each of them. -/
def lead (b : UInt8) : Lead :=
  let n := b.toNat
  if b < 0x80 then .char (Char.ofNat n)
  else if b < 0xC2 then .invalid
  else if b < 0xE0 then .opens ⟨n - 0xC0, 0x80, 0xBF, 0⟩
  else if b = 0xE0 then .opens ⟨0, 0xA0, 0xBF, 1⟩
  else if b = 0xED then .opens ⟨0xD, 0x80, 0x9F, 1⟩
  else if b < 0xF0 then .opens ⟨n - 0xE0, 0x80, 0xBF, 1⟩
  else if b = 0xF0 then .opens ⟨0, 0x90, 0xBF, 2⟩
  else if b < 0xF4 then .opens ⟨n - 0xF0, 0x80, 0xBF, 2⟩
  else if b = 0xF4 then .opens ⟨4, 0x80, 0x8F, 2⟩
  else .invalid

/-- The decoder between two bytes: the sequence it is in and the characters so far, last first. -/
structure State where
  open? : Option Partial
  out : List Char
deriving DecidableEq

/-- A decoder that has seen nothing. -/
def State.start : State := ⟨none, []⟩

/-- Takes a byte as the start of a sequence. -/
def State.begin (out : List Char) (b : UInt8) : State :=
  match lead b with
  | .char c => ⟨none, c :: out⟩
  | .opens p => ⟨some p, out⟩
  | .invalid => ⟨none, replacement :: out⟩

/-- Takes the next byte. One that cannot continue the open sequence ends it as ill-formed and
    starts afresh. -/
def State.feed (s : State) (b : UInt8) : State :=
  match s.open? with
  | none => .begin s.out b
  | some p =>
    if p.low ≤ b ∧ b ≤ p.high then
      let bits := 64 * p.bits + (b.toNat - 0x80)
      match p.more with
      | 0 => ⟨none, Char.ofNat bits :: s.out⟩
      | more + 1 => ⟨some ⟨bits, 0x80, 0xBF, more⟩, s.out⟩
    else .begin (replacement :: s.out) b

/-- The characters at the end of the input; an open sequence is ill-formed. -/
def State.finish (s : State) : Text :=
  match s.open? with
  | none => s.out.reverse
  | some _ => (replacement :: s.out).reverse

/-- Decodes bytes, replacing what is ill-formed. -/
def decode (bytes : Bytes) : Text := (bytes.foldl State.feed .start).finish

/-- Encodes a text. -/
def encode (s : Text) : Bytes := s.flatMap String.utf8EncodeChar

/-- How many bytes a text takes. -/
def size (s : Text) : Nat := (encode s).length

/-- The text that bytes stand for, if they are well-formed. -/
def read? (bytes : Bytes) : Option Text :=
  if encode (decode bytes) = bytes then some (decode bytes) else none

/-- The character that bytes begin with, if they begin with a well-formed sequence. -/
def first? (bytes : Bytes) : Option Char :=
  (decode (bytes.take 4)).head?.filter fun c => (String.utf8EncodeChar c).isPrefixOf bytes

end Utf8

end Overseer
