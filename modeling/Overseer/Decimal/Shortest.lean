import Overseer.Decimal.Double
import Overseer.Text.Numeral

/-! ## Shortest decimals

The decimal that stands for a double has as few digits as a decimal can have that is nearer to it
than to any other double, and of those it is the closest; of two that are as close it is the even
one. A half-way point belongs to the double with the even mantissa. -/

namespace Overseer

/-- The number `digits * 10 ^ exponent`. -/
structure Decimal where
  digits : Nat
  exponent : Int
deriving DecidableEq, Inhabited

namespace Decimal

def tenTo (n : Nat) : Nat := Nat.pow 10 n

/-- The value as a ratio. -/
def ratio (d : Decimal) : Nat × Nat := (d.digits * tenTo d.exponent.toNat, tenTo (-d.exponent).toNat)

/-- Compares a decimal with `n * 2 ^ e`. -/
def compareWith (d : Decimal) (n : Nat) (e : Int) : Ordering :=
  compare (d.ratio.1 * Double.twoTo (-e).toNat) (n * Double.twoTo e.toNat * d.ratio.2)

/-- Whether a double is the one nearest to a decimal. The bounds are in quarters of the last place
    of the mantissa; below a power of two the doubles are twice as dense. -/
def standsFor (d : Decimal) (x : Double) : Bool :=
  let dense := x.mantissa = Double.twoTo (Double.precision - 1) ∧ Double.leastExponent < x.exponent
  let low := d.compareWith (4 * x.mantissa - if dense then 1 else 2) (x.exponent - 2)
  let high := d.compareWith (4 * x.mantissa + 2) (x.exponent - 2)
  if x.mantissa % 2 = 0 then low != .lt && high != .gt else low == .gt && high == .lt

/-- The exponent of ten of the first digit of a ratio. -/
def leadExponent (num den : Nat) : Int :=
  let e : Int := ((Numeral.write num).length : Int) - ((Numeral.write den).length : Int)
  if den * tenTo e.toNat ≤ num * tenTo (-e).toNat then e else e - 1

/-- The multiples of a power of ten next to a ratio, the closer one first. -/
def neighbours (num den : Nat) (exponent : Int) : List Decimal :=
  let n := num * tenTo (-exponent).toNat
  let d := den * tenTo exponent.toNat
  let near := Double.nearest n d
  let other := if near = n / d then near + 1 else n / d
  [⟨near, exponent⟩, ⟨other, exponent⟩]

/-- As many digits as any double needs. -/
def mostDigits : Nat := 17

/-- Takes the zeros off the end. -/
def strip : Nat → Decimal → Decimal
  | 0, d => d
  | n + 1, d =>
    if d.digits ≠ 0 ∧ d.digits % 10 = 0 then strip n ⟨d.digits / 10, d.exponent + 1⟩ else d

/-- The decimal that stands for a double. -/
def shortest (x : Double) : Decimal :=
  if x.isZero then ⟨0, 0⟩
  else
    let lead := leadExponent x.ratio.1 x.ratio.2
    let near (count : Nat) : List Decimal := neighbours x.ratio.1 x.ratio.2 (lead - count)
    let found := (List.range mostDigits).findSome? fun count => (near count).find? (·.standsFor x)
    strip mostDigits (found.getD default)

end Decimal

end Overseer
