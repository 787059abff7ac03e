import Overseer.Pattern.CharSet
import Overseer.Text.Blank

/-! ## Patterns

Regular expressions over text with anchors. A pattern matches a stretch of a text, and because of
the anchors it matters what stands before and after the stretch. -/

namespace Overseer

-- ---------------------------------------------------------------------------
-- Anchors
-- ---------------------------------------------------------------------------

/-- What a place in a text has to be like. -/
inductive Anchor where
  | textStart
  | textEnd
  /-- A word begins here. -/
  | wordStart
  /-- A word ends here. -/
  | wordEnd
  /-- A word begins or ends here. -/
  | wordEdge
  /-- No word begins or ends here. -/
  | noWordEdge
deriving DecidableEq

namespace Anchor

/-- Whether there is a character and it belongs to a word. -/
def inWord (c : Option Char) : Bool := c.any isWordChar

/-- Whether an anchor holds between two characters, which are missing at the ends of the text. -/
def holds (before after : Option Char) : Anchor → Bool
  | .textStart => before.isNone
  | .textEnd => after.isNone
  | .wordStart => !inWord before && inWord after
  | .wordEnd => inWord before && !inWord after
  | .wordEdge => inWord before != inWord after
  | .noWordEdge => inWord before == inWord after

end Anchor

-- ---------------------------------------------------------------------------
-- Patterns
-- ---------------------------------------------------------------------------

inductive Pattern where
  /-- The empty stretch. -/
  | empty
  /-- One character of a set. -/
  | oneOf (s : CharSet)
  | seq (p q : Pattern)
  | alt (p q : Pattern)
  /-- Any number of stretches one after the other. -/
  | many (p : Pattern)
  /-- At least one stretch, and any number of further ones. -/
  | atLeastOne (p : Pattern)
  /-- The empty stretch at a place where an anchor holds. -/
  | anchor (a : Anchor)
deriving DecidableEq

namespace Pattern

/-- At most one stretch. -/
def optional (p : Pattern) : Pattern := .alt p .empty

/-- A fixed text. -/
def literal : Text → Pattern
  | [] => .empty
  | [c] => .oneOf (.single c)
  | c :: s => .seq (.oneOf (.single c)) (literal s)

-- ---------------------------------------------------------------------------
-- Meaning
-- ---------------------------------------------------------------------------

/-- `p.Matches before mid after` means that `p` matches the stretch `mid` of the text
    `before ++ mid ++ after`. -/
inductive Matches : Pattern → Text → Text → Text → Prop where
  | empty {before after} : Matches .empty before [] after
  | oneOf {s c before after} : s.contains c = true → Matches (.oneOf s) before [c] after
  | seq {p q before s t after} :
      Matches p before s (t ++ after) → Matches q (before ++ s) t after →
      Matches (.seq p q) before (s ++ t) after
  | altLeft {p q before s after} : Matches p before s after → Matches (.alt p q) before s after
  | altRight {p q before s after} : Matches q before s after → Matches (.alt p q) before s after
  | manyNil {p before after} : Matches (.many p) before [] after
  | manyCons {p before s t after} :
      Matches p before s (t ++ after) → Matches (.many p) (before ++ s) t after →
      Matches (.many p) before (s ++ t) after
  | atLeastOne {p before s t after} :
      Matches p before s (t ++ after) → Matches (.many p) (before ++ s) t after →
      Matches (.atLeastOne p) before (s ++ t) after
  | anchor {a before after} :
      Anchor.holds before.getLast? after.head? a = true → Matches (.anchor a) before [] after

/-- A pattern occurs in a text if it matches one of its stretches. -/
def Occurs (p : Pattern) (s : Text) : Prop :=
  ∃ before mid after, s = before ++ mid ++ after ∧ Matches p before mid after

end Pattern

end Overseer
