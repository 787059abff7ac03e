/-! ## Double precision

The numbers that can be written in double precision, and the one among them that is nearest to a
ratio. Products and quotients are those of the exact values, rounded once. -/

namespace Overseer

/-- The number `mantissa * 2 ^ exponent`. The mantissa is below 2 ^ 53; it is at least 2 ^ 52 unless
    the exponent is the least one. -/
structure Double where
  mantissa : Nat
  exponent : Int
deriving DecidableEq, Inhabited

namespace Double

/-- How many bits a mantissa has. -/
def precision : Nat := 53

def leastExponent : Int := -1074

def greatestExponent : Int := 971

/-- A power of two with a natural exponent. -/
def twoTo (n : Nat) : Nat := Nat.pow 2 n

def zero : Double := ⟨0, leastExponent⟩

def isZero (x : Double) : Bool := x.mantissa == 0

/-- Whether a number is not too large. -/
def isFinite (x : Double) : Bool := x.exponent ≤ greatestExponent

/-- The whole number nearest to a ratio, of two the even one. -/
def nearest (num den : Nat) : Nat :=
  let q := num / den
  let r := num % den
  if 2 * r < den then q
  else if den < 2 * r then q + 1
  else if q % 2 = 0 then q else q + 1

/-- The ratio `num / den` divided by a power of two. -/
def scaled (num den : Nat) (exponent : Int) : Nat × Nat :=
  (num * twoTo (-exponent).toNat, den * twoTo exponent.toNat)

/-- The exponent of the double nearest to a ratio: the mantissa is as long as it may be. -/
def exponentFor (num den : Nat) : Int :=
  let e : Int := (Nat.log2 num : Int) - (Nat.log2 den : Int) - precision
  let (n, d) := scaled num den e
  max leastExponent (if twoTo precision ≤ n / d then e + 1 else e)

/-- The double nearest to a ratio, of two the one with the even mantissa. -/
def ofRatio (num den : Nat) : Double :=
  if num = 0 then zero
  else
    let e := exponentFor num den
    let (n, d) := scaled num den e
    let m := nearest n d
    if m = twoTo precision then ⟨twoTo (precision - 1), e + 1⟩ else ⟨m, e⟩

def ofNat (n : Nat) : Double := ofRatio n 1

/-- The value as a ratio. -/
def ratio (x : Double) : Nat × Nat := (x.mantissa * twoTo x.exponent.toNat, twoTo (-x.exponent).toNat)

def mul (x y : Double) : Double := ofRatio (x.ratio.1 * y.ratio.1) (x.ratio.2 * y.ratio.2)

def div (x y : Double) : Double := ofRatio (x.ratio.1 * y.ratio.2) (x.ratio.2 * y.ratio.1)

/-- The nearest whole number is at most half a unit away. -/
theorem nearest_close (num den : Nat) (h : 0 < den) :
    2 * (nearest num den * den) ≤ 2 * num + den ∧ 2 * num ≤ 2 * (nearest num den * den) + den := by
  have split : den * (num / den) + num % den = num := Nat.div_add_mod num den
  have small : num % den < den := Nat.mod_lt _ h
  have up : (num / den + 1) * den = den * (num / den) + den := by
    rw [Nat.add_mul, Nat.mul_comm, Nat.one_mul]
  have same : num / den * den = den * (num / den) := Nat.mul_comm ..
  simp only [nearest]
  split
  · rw [same]; omega
  · split
    · rw [up]; omega
    · split
      · rw [same]; omega
      · rw [up]; omega

end Double

end Overseer
