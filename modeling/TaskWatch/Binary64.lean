/-!
# Floating point numbers as data

A finite number of the format binary64 without its sign is `mantissa · 2 ^ exponent`, kept as two
integers, so that rounding is exact arithmetic and two numbers are compared by looking at them.
`ofRatio` rounds a quotient of naturals to the nearest such number, a half to the even mantissa;
products, quotients and powers of ten are all rounded through it.
-/

namespace TaskWatch

/-- A finite binary64 number that is not negative. In its one form the mantissa is below `2 ^ 53`,
and either it is at least `2 ^ 52` or the exponent is the least one, `-1074`. -/
structure Magnitude where
  mantissa : Nat
  exponent : Int
  deriving DecidableEq, Repr

/-- A finite binary64 number; zero has a sign too. -/
structure Binary64 where
  negative : Bool
  magnitude : Magnitude
  deriving DecidableEq, Repr

namespace Magnitude

/-- The least exponent: the distance between the smallest numbers is `2 ^ -1074`. -/
def leastExponent : Int := -1074

/-- The exponent of the greatest numbers. -/
def greatestExponent : Int := 971

def zero : Magnitude := ⟨0, leastExponent⟩

def isZero (m : Magnitude) : Bool := m.mantissa == 0

/-- The nearest natural to `num / den`, a half going to the even one. -/
def roundDiv (num den : Nat) : Nat :=
  let q := num / den
  let r := num % den
  if 2 * r < den then q
  else if den < 2 * r then q + 1
  else if q % 2 = 0 then q else q + 1

/-- The value as a quotient of naturals. -/
def ratio (m : Magnitude) : Nat × Nat :=
  if m.exponent < 0 then (m.mantissa, Nat.pow 2 m.exponent.natAbs)
  else (m.mantissa * Nat.pow 2 m.exponent.toNat, 1)

/-- The number nearest to `num / den`, or none when that is past the greatest number. -/
def ofRatio (num den : Nat) : Option Magnitude :=
  if num = 0 ∨ den = 0 then some zero
  else
    let guess : Int := (Nat.log2 num : Int) - (Nat.log2 den : Int) - 53
    let scaled (e : Int) : Nat × Nat :=
      if e < 0 then (num * Nat.pow 2 e.natAbs, den) else (num, den * Nat.pow 2 e.toNat)
    let (n, d) := scaled guess
    let e := max (if n / d < Nat.pow 2 53 then guess else guess + 1) leastExponent
    let (n, d) := scaled e
    let mantissa := roundDiv n d
    let (mantissa, e) := if mantissa = Nat.pow 2 53 then (Nat.pow 2 52, e + 1) else (mantissa, e)
    if greatestExponent < e then none else some ⟨mantissa, e⟩

/-- The number nearest to a natural. -/
def ofNat (n : Nat) : Option Magnitude := ofRatio n 1

/-- The rounded product. -/
def mul (a b : Magnitude) : Option Magnitude :=
  let (an, ad) := a.ratio
  let (bn, bd) := b.ratio
  ofRatio (an * bn) (ad * bd)

/-- The rounded quotient. -/
def div (a b : Magnitude) : Option Magnitude :=
  let (an, ad) := a.ratio
  let (bn, bd) := b.ratio
  ofRatio (an * bd) (ad * bn)

/-- The number nearest to `10 ^ k`. -/
def powerOfTen (k : Nat) : Option Magnitude := ofNat (Nat.pow 10 k)

/-- The greatest power of ten that is a number of the format. -/
def greatestPower : Nat := 308

/-- Division by `10 ^ k`, in steps of the greatest power of ten, each step rounded. -/
def divPower (m : Magnitude) (k : Nat) : Option Magnitude :=
  if m.isZero then some m
  else if k ≤ greatestPower then do m.div (← powerOfTen k)
  else do
    let next ← m.div (← powerOfTen greatestPower)
    next.divPower (k - greatestPower)
  termination_by k
  decreasing_by simp [greatestPower] at *; omega

/-- The value of a decimal: the significand is rounded first, and then its product with, or
quotient by, a rounded power of ten. None stands for a number past the greatest one. -/
def ofDecimal (significand : Nat) (exponent : Int) : Option Magnitude := do
  let m ← ofNat significand
  if exponent < 0 then m.divPower exponent.natAbs
  else if m.isZero then some m
  else if exponent.toNat ≤ greatestPower then m.mul (← powerOfTen exponent.toNat)
  else none

end Magnitude

end TaskWatch
