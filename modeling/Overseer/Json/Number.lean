import Overseer.Decimal.Shortest
import Overseer.Text.Numeral

/-! ## Numbers in JSON

A literal without point and exponent is an integer if 64 bits hold it. Any other literal is a
double: its first digits, as many as 64 bits hold, are taken as one whole number, and that is
multiplied or divided by a power of ten in double precision. A double is written with the fewest
digits that stand for it. -/

namespace Overseer.Json

inductive Number where
  | integer (n : Int)
  | double (negative : Bool) (x : Double)
deriving DecidableEq

-- ---------------------------------------------------------------------------
-- Reading
-- ---------------------------------------------------------------------------

/-- The parts of a number as it is written. -/
structure Literal where
  negative : Bool
  whole : Text
  places : Option Text
  exponent : Option Int
deriving DecidableEq

namespace Literal

/-- The first number that is too large for 64 bits. -/
def bound : Nat := 0x10000000000000000

/-- Appends digits to a number until it would reach the bound; the other digits are left. -/
def absorb (n : Nat) : Text → Nat × Text
  | [] => (n, [])
  | c :: s =>
    let m := 10 * n + (c.toNat - '0'.toNat)
    if m < bound then absorb m s else (n, c :: s)

/-- The greatest power of ten that is a double. -/
def greatestPower : Nat := 308

def tenTo (n : Nat) : Double := .ofNat (Decimal.tenTo n)

/-- A double divided by a power of ten. -/
def shrink (x : Double) (n : Nat) : Double :=
  if n ≤ greatestPower then x.div (tenTo n)
  else if x.isZero then x
  else shrink (x.div (tenTo greatestPower)) (n - greatestPower)
termination_by n
decreasing_by simp_all [greatestPower]; omega

/-- A whole number times a power of ten; none if that is too large. -/
def scale (n : Nat) (exponent : Int) : Option Double :=
  match exponent with
  | .ofNat e =>
    if n = 0 then some .zero
    else if greatestPower < e then none
    else
      let x := (Double.ofNat n).mul (tenTo e)
      if x.isFinite then some x else none
  | .negSucc e => some (shrink (.ofNat n) (e + 1))

/-- The double that a literal means. -/
def double? (l : Literal) : Option Number :=
  let (n, left) := absorb 0 l.whole
  let places := l.places.getD []
  let (n, dropped) := absorb n places
  let exponent : Int :=
    (left.length : Int) - ((places.length - dropped.length : Nat) : Int) + l.exponent.getD 0
  (scale n exponent).map (.double l.negative)

/-- What a literal means; none if it is too large. -/
def number? (l : Literal) : Option Number :=
  match absorb 0 l.whole, l.places, l.exponent with
  | (n, []), none, none =>
    if !l.negative then some (.integer n)
    else if 0 < n ∧ 2 * n ≤ bound then some (.integer (-(n : Int)))
    else l.double?
  | _, _, _ => l.double?

/-- The exponent at the beginning of a text and what follows it. -/
def readExponent : Text → Option (Option Int × Text)
  | e :: s =>
    if e = 'e' ∨ e = 'E' then
      let negative := s.head? = some '-'
      let digits := if negative ∨ s.head? = some '+' then s.drop 1 else s
      match digits.takeWhile Char.isDigit with
      | [] => none
      | ds =>
        let n : Int := (Numeral.value ds : Int)
        some (some (if negative then -n else n), digits.dropWhile Char.isDigit)
    else some (none, e :: s)
  | [] => some (none, [])

/-- The places after the point at the beginning of a text and what follows them. -/
def readPlaces : Text → Option (Option Text × Text)
  | '.' :: s =>
    match s.takeWhile Char.isDigit with
    | [] => none
    | ds => some (some ds, s.dropWhile Char.isDigit)
  | s => some (none, s)

/-- The literal at the beginning of a text and what follows it. -/
def read (s : Text) : Option (Literal × Text) := do
  let negative := s.head? = some '-'
  let s := if negative then s.drop 1 else s
  let whole := s.takeWhile Char.isDigit
  if whole.isEmpty || (whole.head? = some '0' && whole != ['0']) then none
  let (places, s) ← readPlaces (s.dropWhile Char.isDigit)
  let (exponent, s) ← readExponent s
  return (⟨negative, whole, places, exponent⟩, s)

end Literal

-- ---------------------------------------------------------------------------
-- Writing
-- ---------------------------------------------------------------------------

/-- Exponents of the first digit from which on a point alone places the digits. -/
def leastPlain : Int := -5

/-- The last such exponent. -/
def greatestPlain : Int := 15

def zeros (n : Nat) : Text := List.replicate n '0'

/-- Digits whose first has the given exponent of ten. -/
def placeDigits (digits : Text) (lead : Int) : Text :=
  if lead < leastPlain ∨ greatestPlain < lead then
    digits.take 1 ++ (if digits.length ≤ 1 then [] else '.' :: digits.drop 1)
      ++ 'e' :: (if lead < 0 then [] else ['+']) ++ Numeral.writeInt lead
  else if lead < 0 then
    ['0', '.'] ++ zeros (-lead - 1).toNat ++ digits
  else
    let whole := lead.toNat + 1
    if digits.length ≤ whole then digits ++ zeros (whole - digits.length) ++ ['.', '0']
    else digits.take whole ++ '.' :: digits.drop whole

/-- A double with its sign. -/
def writeDouble (negative : Bool) (x : Double) : Text :=
  let d := Decimal.shortest x
  let digits := Numeral.write d.digits
  (if negative then ['-'] else []) ++ placeDigits digits (d.exponent + digits.length - 1)

def Number.write : Number → Text
  | .integer n => Numeral.writeInt n
  | .double negative x => writeDouble negative x

end Overseer.Json
