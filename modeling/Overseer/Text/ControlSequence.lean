import Overseer.Text.Utf8

/-! ## Control sequences

Text for a terminal may hold control sequences: an escape character and what belongs to it. What is
left for a reader without a terminal are the characters outside of sequences, without the control
characters that are no blanks.

A blank control character inside a sequence is left as well, and once a character is left, all that
follow are until the next control character, though a sequence that was open stays open. -/

namespace Overseer.Text

/-- The sequence that a terminal is in. -/
inductive Sequence where
  /-- None. -/
  | none
  /-- Right after the escape character. -/
  | escape
  /-- After the escape character and some intermediate ones. -/
  | intermediate
  /-- Parameters of a control function, up to its letter. -/
  | control
  /-- A command to the system, up to a bell. -/
  | command
  /-- The beginning of a device string. -/
  | device
  /-- The parameters of a device string. -/
  | deviceParameters
  /-- The intermediate characters of a device string. -/
  | deviceIntermediate
  /-- A string up to the byte that ends strings. -/
  | string
deriving DecidableEq

namespace Sequence

/-- Ends a sequence at once. -/
def cancels (c : Char) : Bool := c = '\x18' || c = '\x1A'

def escapeChar : Char := '\x1B'

/-- The byte that ends strings. It may be a part of a character. -/
def stringEnd : UInt8 := 0x9C

/-- Whether a character is from one code point to another. -/
def within (low high : Nat) (c : Char) : Bool := low ≤ c.toNat && c.toNat ≤ high

def isIntermediate (c : Char) : Bool := within 0x20 0x2F c

def isParameter (c : Char) : Bool := within 0x30 0x3B c

/-- Digits, punctuation and letters that may end a sequence. -/
def isFinal (c : Char) : Bool := within 0x30 0x7E c

/-- What a character right after the escape character begins. -/
def opening (c : Char) : Sequence :=
  match c with
  | '[' => .control
  | ']' => .command
  | 'P' => .device
  | 'X' | '^' | '_' => .string
  | _ =>
    if isIntermediate c then .intermediate
    else if isFinal c then .none
    else .escape

/-- The sequence after a character that is not left. -/
def next (s : Sequence) (c : Char) : Sequence :=
  if cancels c then .none
  else if c = escapeChar then .escape
  else
    match s with
    | .none => .none
    | .escape => opening c
    | .intermediate => if isFinal c then .none else .intermediate
    | .control => if within 0x40 0x7E c then .none else .control
    | .command => if c = '\x07' then .none else .command
    | .device =>
      if isIntermediate c then .deviceIntermediate
      else if within 0x30 0x3F c then .deviceParameters
      else if isFinal c then .string
      else .device
    | .deviceParameters =>
      if isIntermediate c then .deviceIntermediate
      else if isParameter c then .deviceParameters
      else if isFinal c then .string
      else .deviceParameters
    | .deviceIntermediate => if isFinal c then .string else .deviceIntermediate
    | .string => if stringEnd ∈ String.utf8EncodeChar c then .none else .string

/-- Whether blank control characters in a sequence are carried out as if they stood outside. -/
def passesBlanks (s : Sequence) : Bool := s = .escape || s = .intermediate || s = .control

end Sequence

/-- Whether a character is a control character that is a blank. -/
def isBlankControl (c : Char) : Bool := c = '\t' || c = '\n' || c = '\x0C' || c = '\r'

/-- Whether a character is left outside of sequences. -/
def isVisible (c : Char) : Bool := (0x20 ≤ c.toNat && c.toNat ≠ 0x7F) || isBlankControl c

/-- What is left of the rest of a text, where `showing` tells whether the last character was. -/
def visibleFrom (s : Sequence) (showing : Bool) : Text → Text
  | [] => []
  | c :: rest =>
    if isVisible c && (showing || s = .none || (isBlankControl c && s.passesBlanks)) then
      c :: visibleFrom (if c.toNat < 0x80 then s else .none) true rest
    else visibleFrom (s.next c) false rest

/-- What is left of a text. -/
def visible (s : Text) : Text := visibleFrom .none false s

theorem visibleFrom_eq_self {s : Text} (h : ∀ c ∈ s, isVisible c = true) (showing : Bool) :
    visibleFrom .none showing s = s := by
  induction s generalizing showing with
  | nil => rfl
  | cons c s ih =>
    have rest : ∀ d ∈ s, isVisible d = true := fun d hd => h d (List.mem_cons_of_mem _ hd)
    simp [visibleFrom, h c List.mem_cons_self, ih rest]

/-- A text without control characters but blanks is left as it is. -/
theorem visible_eq_self {s : Text} (h : ∀ c ∈ s, isVisible c = true) : s.visible = s :=
  visibleFrom_eq_self h false

end Overseer.Text
