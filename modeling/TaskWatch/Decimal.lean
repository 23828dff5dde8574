import TaskWatch.Binary64
import TaskWatch.Text.Numeral

/-!
# The shortest decimal of a floating point number

`Decimal.shortest` gives the fewest digits that read back as the number, and of those the nearest
to it; a tie goes to the even last digit. The reals that read back as `mantissa · 2 ^ exponent`
form an interval around it, whose ends belong to it when the mantissa is even. On the grid of
`n`-digit decimals only the two neighbours of the value need a look: if any point of the grid lies
in the interval, one of them does.

`Layout` says how the digits are written, and `Layout.write` writes them.
-/

namespace TaskWatch

/-- The number `digits · 10 ^ exponent`. -/
structure Decimal where
  digits : Nat
  exponent : Int
  deriving DecidableEq, Repr

namespace Decimal

/-- The ends of the interval of reals that round to `m`, in quarters of `2 ^ m.exponent`. The
distance below is halved at a power of two. -/
def interval (m : Magnitude) : Nat × Nat :=
  let below :=
    if m.mantissa = Nat.pow 2 52 ∧ Magnitude.leastExponent < m.exponent then 1 else 2
  (4 * m.mantissa - below, 4 * m.mantissa + 2)

/-- `a · 2 ^ p` and `b · 10 ^ g` brought to whole numbers by one common factor. -/
def common (a : Nat) (p : Int) (b : Nat) (g : Int) : Nat × Nat :=
  let a2 := if p < 0 then a else a * Nat.pow 2 p.toNat
  let b2 := if p < 0 then b * Nat.pow 2 p.natAbs else b
  if g < 0 then (a2 * Nat.pow 10 g.natAbs, b2) else (a2, b2 * Nat.pow 10 g.toNat)

/-- Whether `d · 10 ^ g` reads back as `m`. -/
def readsBack (m : Magnitude) (d : Nat) (g : Int) : Bool :=
  let (low, high) := interval m
  let p := m.exponent - 2
  let (l, x) := common low p d g
  let (h, _) := common high p d g
  if m.mantissa % 2 = 0 then l ≤ x && x ≤ h else l < x && x < h

/-- The last decimal of the grid with distance `10 ^ g` that is not above `m`. -/
def floorOn (m : Magnitude) (g : Int) : Nat :=
  let (v, unit) := common m.mantissa m.exponent 1 g
  v / unit

/-- The neighbour of `m` on the grid with distance `10 ^ g` that reads back as `m`, if one does. -/
def neighbour? (m : Magnitude) (g : Int) : Option Nat :=
  let d := floorOn m g
  match readsBack m d g, readsBack m (d + 1) g with
  | true, false => some d
  | false, true => some (d + 1)
  | false, false => none
  | true, true =>
    let (v, mid) := common (2 * m.mantissa) m.exponent (2 * d + 1) g
    if v < mid then some d
    else if mid < v then some (d + 1)
    else if d % 2 = 0 then some d else some (d + 1)

/-- How many digits a natural has; zero has none. -/
def digitCount (n : Nat) : Nat :=
  if n = 0 then 0 else (Numeral.digits n).length

/-- The decimal exponent of the first digit of `m`. -/
def firstExponent (m : Magnitude) : Int :=
  let whole := digitCount (floorOn m 0)
  if whole ≠ 0 then (whole : Int) - 1
  else
    let scaled := digitCount (floorOn m (-400))
    (scaled : Int) - 401

/-- The digits without the zeros at their end. -/
def normalize (fuel : Nat) (x : Decimal) : Decimal :=
  match fuel with
  | 0 => x
  | fuel + 1 =>
    if x.digits ≠ 0 ∧ x.digits % 10 = 0 then normalize fuel ⟨x.digits / 10, x.exponent + 1⟩ else x

/-- The first hit among the grids of the given numbers of digits. -/
def firstHit (m : Magnitude) (first : Int) : List Nat → Decimal
  | [] => ⟨0, 0⟩
  | n :: more =>
    let g := first - ((n : Int) - 1)
    match neighbour? m g with
    | some d => normalize 20 ⟨d, g⟩
    | none => firstHit m first more

/-- The nearest of the shortest decimals that read back as `m`. -/
def shortest (m : Magnitude) : Decimal :=
  if m.isZero then ⟨0, 0⟩ else firstHit m (firstExponent m) (List.range' 1 17)

end Decimal

/-- How a floating point number is written. -/
structure Layout where
  /-- The least exponent of the first digit that is written with plain digits. -/
  leastPlain : Int
  /-- The greatest such exponent. -/
  greatestPlain : Int
  /-- What follows the digits of a whole number. -/
  wholeMark : String
  /-- The sign of an exponent that is not negative. -/
  exponentPlus : String

/-- Numbers in messages: plain digits from `0.00001` up to sixteen digits before the point, and a
whole number keeps one zero after the point. -/
def Layout.message : Layout := ⟨-5, 15, ".0", "+"⟩

namespace Layout

/-- The text of a number that is not negative. -/
def writeMagnitude (layout : Layout) (m : Magnitude) : String :=
  let x := Decimal.shortest m
  let digits := Numeral.digits x.digits
  let first := (digits.length : Int) - 1 + x.exponent
  if m.isZero then "0" ++ layout.wholeMark
  else if layout.leastPlain ≤ first ∧ first ≤ layout.greatestPlain then
    if 0 ≤ x.exponent then
      String.ofList (digits ++ List.replicate x.exponent.toNat '0') ++ layout.wholeMark
    else if 0 ≤ first then
      let (whole, part) := digits.splitAt (first.toNat + 1)
      String.ofList (whole ++ '.' :: part)
    else
      String.ofList ('0' :: '.' :: List.replicate (first.natAbs - 1) '0' ++ digits)
  else
    let mantissa := match digits with
      | [] => []
      | [d] => [d]
      | d :: rest => d :: '.' :: rest
    let sign := if first < 0 then "-" else layout.exponentPlus
    String.ofList mantissa ++ "e" ++ sign ++ Numeral.text first.natAbs

/-- The text of a number; a negative zero keeps its sign. -/
def write (layout : Layout) (x : Binary64) : String :=
  let text := layout.writeMagnitude x.magnitude
  if x.negative then "-" ++ text else text

end Layout

end TaskWatch
