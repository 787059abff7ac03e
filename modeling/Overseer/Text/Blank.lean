import Overseer.Text.Ranges

/-! ## Text and its blank characters

Text is handled as the list of its characters. A character is blank when it belongs to
Unicode's White_Space class; `trim` takes blanks off both ends and `words` cuts at them. -/

namespace Overseer

/-- A text is the list of its characters. -/
abbrev Text := List Char

/-- The code points of White_Space. -/
def blankRanges : CodeRanges :=
  [(0x09, 0x0D), (0x20, 0x20), (0x85, 0x85), (0xA0, 0xA0), (0x1680, 0x1680), (0x2000, 0x200A),
    (0x2028, 0x2029), (0x202F, 0x202F), (0x205F, 0x205F), (0x3000, 0x3000)]

/-- Whether a character is in White_Space. -/
def isBlank (c : Char) : Bool := blankRanges.contains c.toNat

namespace Text

def trimStart (s : Text) : Text := s.dropWhile isBlank

def trimEnd (s : Text) : Text := (s.reverse.dropWhile isBlank).reverse

/-- The text without the blanks at its ends. -/
def trim (s : Text) : Text := trimEnd (trimStart s)

/-- The longest stretches without a blank, in order. -/
def words (s : Text) : List Text := (s.splitOnP isBlank).filter fun w => !w.isEmpty

@[simp] theorem trim_nil : trim [] = [] := rfl

@[simp] theorem words_nil : words [] = [] := rfl

end Text

end Overseer
