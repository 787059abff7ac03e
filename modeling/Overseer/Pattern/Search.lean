import Overseer.Pattern.Basic

/-! ## Searching for a pattern

The search reads the text once. It carries the patterns that may still go on from the current
place, and at every place the pattern itself may begin anew; it is over as soon as one of them
matches the empty stretch. -/

namespace Overseer.Pattern

/-- Whether the pattern matches the empty stretch between two characters. -/
def nullable (before after : Option Char) : Pattern → Bool
  | .empty => true
  | .oneOf _ => false
  | .seq p q => p.nullable before after && q.nullable before after
  | .alt p q => p.nullable before after || q.nullable before after
  | .many _ => true
  | .atLeastOne p => p.nullable before after
  | .anchor a => a.holds before after

/-- `p` and then `q`. -/
def andThen : Pattern → Pattern → Pattern
  | .empty, q => q
  | p, q => .seq p q

/-- The patterns for what has to follow when a match begins by reading `c`. -/
def after (before : Option Char) (c : Char) : Pattern → List Pattern
  | .empty => []
  | .oneOf s => if s.contains c then [.empty] else []
  | .seq p q =>
    (p.after before c).map (·.andThen q)
      ++ if p.nullable before (some c) then q.after before c else []
  | .alt p q => p.after before c ++ q.after before c
  | .many p | .atLeastOne p => (p.after before c).map (·.andThen (.many p))
  | .anchor _ => []

/-- How many parts a pattern has. -/
def size : Pattern → Nat
  | .empty | .oneOf _ | .anchor _ => 1
  | .seq p q | .alt p q => p.size + q.size + 1
  | .many p | .atLeastOne p => p.size + 1

/-- The patterns without repetitions. Patterns of different sizes are told apart by that alone. -/
def distinct (ps : List Pattern) : List Pattern := (ps.map fun p => (p.size, p)).eraseDups.map (·.2)

@[simp] theorem mem_distinct {p : Pattern} {ps : List Pattern} : p ∈ distinct ps ↔ p ∈ ps := by
  simp [distinct]

/-- Searches the rest of a text, where `running` are the matches under way. -/
def searchFrom (p : Pattern) (before : Option Char) (running : List Pattern) : Text → Bool
  | [] => (p :: running).any (nullable before none)
  | c :: s =>
    (p :: running).any (nullable before (some c))
      || searchFrom p (some c) (distinct ((p :: running).flatMap (after before c))) s

/-- Whether the pattern matches some stretch of the text. -/
def search (p : Pattern) (s : Text) : Bool := searchFrom p none [] s

end Overseer.Pattern
