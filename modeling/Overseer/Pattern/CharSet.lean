import Overseer.Text.Blank
import Overseer.Text.Letter

/-! ## Sets of characters

Sets are made of ranges and of classes of Unicode by the operations on sets. -/

namespace Overseer

inductive CharSet where
  | empty
  /-- The characters from one to another. -/
  | range (low high : Char)
  /-- The decimal digits. -/
  | decimal
  /-- White_Space. -/
  | blank
  /-- The characters that belong to words. -/
  | word
  /-- All characters but those of a set. -/
  | compl (s : CharSet)
  | union (s t : CharSet)
  | inter (s t : CharSet)
  /-- The characters of the first set that are not in the second. -/
  | diff (s t : CharSet)
  /-- The characters of exactly one of the sets. -/
  | symmDiff (s t : CharSet)
deriving DecidableEq

namespace CharSet

/-- One character. -/
def single (c : Char) : CharSet := .range c c

/-- Every character but the line feed. -/
def anyButNewline : CharSet := .compl (.single '\n')

def contains (c : Char) : CharSet → Bool
  | .empty => false
  | .range low high => decide (low ≤ c) && decide (c ≤ high)
  | .decimal => isDecimal c
  | .blank => isBlank c
  | .word => isWordChar c
  | .compl s => !s.contains c
  | .union s t => s.contains c || t.contains c
  | .inter s t => s.contains c && t.contains c
  | .diff s t => s.contains c && !t.contains c
  | .symmDiff s t => s.contains c != t.contains c

@[simp] theorem contains_single {c d : Char} : (single d).contains c = true ↔ c = d := by
  simp only [single, contains, Bool.and_eq_true, decide_eq_true_eq]
  exact ⟨fun h => Char.le_antisymm h.2 h.1, fun h => h ▸ ⟨Char.le_refl _, Char.le_refl _⟩⟩

end CharSet

end Overseer
