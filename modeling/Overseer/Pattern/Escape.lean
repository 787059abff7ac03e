import Overseer.Pattern.Basic

/-! ## Escapes in patterns

What a backslash and the character after it mean: the character itself, a control character, a class
of characters, or an anchor. -/

namespace Overseer

/-- Why a text is no pattern. -/
inductive PatternFault where
  | unclosedGroup
  | unopenedGroup
  | unclosedClass
  | reversedRange
  /-- A range that begins or ends with something else than a character. -/
  | noCharacter
  | endsInEscape
  | unknownEscape (c : Char)
  | nothingToRepeat
  | unknownOperator (c : Char)
  /-- Groups, classes and operators inside each other beyond the limit. -/
  | tooDeep
deriving DecidableEq

namespace Pattern

/-- What an escape means. -/
inductive Escape where
  | char (c : Char)
  | set (s : CharSet)
  | anchor (a : Anchor)
deriving DecidableEq

/-- The meaning of a backslash before a character. ASCII characters that are no letters or digits
    stand for themselves, except the angle brackets. -/
def Escape.ofChar? (c : Char) : Option Escape :=
  match c with
  | 'a' => some (.char '\x07')
  | 't' => some (.char '\t')
  | 'n' => some (.char '\n')
  | 'v' => some (.char '\x0B')
  | 'f' => some (.char '\x0C')
  | 'r' => some (.char '\r')
  | 'd' => some (.set .decimal)
  | 'D' => some (.set (.compl .decimal))
  | 's' => some (.set .blank)
  | 'S' => some (.set (.compl .blank))
  | 'w' => some (.set .word)
  | 'W' => some (.set (.compl .word))
  | 'A' => some (.anchor .textStart)
  | 'z' => some (.anchor .textEnd)
  | 'b' => some (.anchor .wordEdge)
  | 'B' => some (.anchor .noWordEdge)
  | '<' => some (.anchor .wordStart)
  | '>' => some (.anchor .wordEnd)
  | _ => if c.toNat < 0x80 && !c.isAlphanum then some (.char c) else none

/-- The meaning of a backslash, given what follows it. -/
def Escape.read : Text → Except PatternFault Escape
  | [] => .error .endsInEscape
  | c :: _ =>
    match ofChar? c with
    | some e => .ok e
    | none => .error (.unknownEscape c)

end Pattern

end Overseer
