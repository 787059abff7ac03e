import Overseer.Text.Blank

/-! ## Lines and occurrences

`Text.lines` cuts a text into its lines, `Text.occursIn` searches for a fixed text. -/

namespace Overseer.Text

-- ---------------------------------------------------------------------------
-- Lines
-- ---------------------------------------------------------------------------

/-- One carriage return less at the end, if there is one. -/
def dropReturn (s : Text) : Text := if s.getLast? = some '\r' then s.dropLast else s

/-- The lines of a text. A line feed ends a line, and a carriage return right before it belongs to
    the ending. What follows the last line feed is a line too unless it is empty; as it has no
    ending, its carriage returns stay. -/
def lines (s : Text) : List Text :=
  let pieces := s.splitOn '\n'
  let rest := pieces.getLastD []
  pieces.dropLast.map dropReturn ++ (if rest.isEmpty then [] else [rest])

-- ---------------------------------------------------------------------------
-- Occurrences
-- ---------------------------------------------------------------------------

/-- Whether `needle` stands somewhere in the text. -/
def occursIn (needle : Text) : Text → Bool
  | [] => needle.isEmpty
  | c :: s => needle.isPrefixOf (c :: s) || occursIn needle s

theorem occursIn_iff {needle s : Text} : occursIn needle s = true ↔ needle <:+: s := by
  induction s with
  | nil => simp [occursIn]
  | cons c s ih => simp [occursIn, ih, List.infix_cons_iff]

/-- The texts one after the other, with a space between neighbours. -/
def spaced (words : List Text) : Text := List.intercalate [' '] words

end Overseer.Text
