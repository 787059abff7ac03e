import Overseer.Text.Blank

/-! ## Decimal numerals

A numeral is an optional plus sign and at least one ASCII digit; leading zeros are allowed.
Reading goes from left to right and stops at the first fault: a character that is no digit, or a
digit with which the value reaches the bound. -/

namespace Overseer

/-- Why a text is no numeral below a bound. -/
inductive NumeralFault where
  | empty
  | invalidDigit
  | tooLarge
deriving DecidableEq

def NumeralFault.message : NumeralFault → Text
  | .empty => "cannot parse integer from empty string".toList
  | .invalidDigit => "invalid digit found in string".toList
  | .tooLarge => "number too large to fit in target type".toList

namespace Numeral

/-- The value of an ASCII digit. -/
def digit? (c : Char) : Option Nat :=
  if '0' ≤ c ∧ c ≤ '9' then some (c.toNat - '0'.toNat) else none

/-- The value `n` followed by one more digit. -/
def push (bound n : Nat) (c : Char) : Except NumeralFault Nat :=
  match digit? c with
  | none => .error .invalidDigit
  | some d => if 10 * n + d < bound then .ok (10 * n + d) else .error .tooLarge

/-- The value of a run of digits written after `n`. -/
def readDigits (bound : Nat) : Nat → Text → Except NumeralFault Nat
  | n, [] => .ok n
  | n, c :: s =>
    match push bound n c with
    | .error e => .error e
    | .ok m => readDigits bound m s

/-- The value of a numeral below `bound`. -/
def read (bound : Nat) : Text → Except NumeralFault Nat
  | [] => .error .empty
  | ['+'] => .error .invalidDigit
  | '+' :: s => readDigits bound 0 s
  | s => readDigits bound 0 s

/-- The value of a numeral below 2³². -/
def read32? (s : Text) : Option Nat := (read 0x100000000 s).toOption

/-- The value of a run of digits. -/
def value (s : Text) : Nat := s.foldl (fun n c => 10 * n + (c.toNat - '0'.toNat)) 0

/-- The decimal digits of a number, without leading zeros. -/
def write (n : Nat) : Text := Nat.toDigits 10 n

/-- The decimal digits of an integer, after a minus sign if it is negative. -/
def writeInt : Int → Text
  | .ofNat n => write n
  | .negSucc n => '-' :: write (n + 1)

end Numeral

end Overseer
