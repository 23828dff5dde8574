import TaskWatch.Decimal

/-!
# JSON numbers

A number without fraction and exponent stays an integer as long as it fits in 64 bits, with or
without a sign; any other number is a floating point number, rounded from its decimal digits, or
nothing at all when it is past the greatest one. So `-0` is the floating point number `-0.0`.
-/

namespace TaskWatch

/-- The value of a JSON number. -/
inductive Number where
  | integer (n : Int)
  | real (x : Binary64)
  deriving DecidableEq, Repr

namespace Number

/-- The greatest significand: an unsigned number of 64 bits. -/
def greatestSignificand : Nat := Nat.pow 2 64 - 1

/-- The significand of the digits before the point, taken as long as it fits, and the number of
digits that did not. -/
def takeWhole (significand : Nat) : List Char → Nat × Nat
  | [] => (significand, 0)
  | c :: rest =>
    let next := 10 * significand + Numeral.digitValue c
    if next ≤ greatestSignificand then takeWhole next rest
    else (significand, rest.length + 1)

/-- The significand after the digits behind the point, taken as long as it fits, and how many were
taken. The rest does not count. -/
def takeFraction (significand taken : Nat) : List Char → Nat × Nat
  | [] => (significand, taken)
  | c :: rest =>
    let next := 10 * significand + Numeral.digitValue c
    if next ≤ greatestSignificand then takeFraction next (taken + 1) rest
    else (significand, taken)

/-- The floating point number of a decimal. -/
def ofDecimal? (negative : Bool) (whole fraction : List Char) (exponent : Int) : Option Number :=
  let (significand, dropped) := takeWhole 0 whole
  let (significand, taken) := takeFraction significand 0 fraction
  let magnitude := Magnitude.ofDecimal significand (dropped - taken + exponent)
  magnitude.map fun m => .real ⟨negative, m⟩

/-- The number that a row of digits with a sign stands for. -/
def ofDigits? (negative : Bool) (whole : List Char) : Option Number :=
  let n := Numeral.value whole
  if negative then
    if n ≠ 0 ∧ n ≤ Nat.pow 2 63 then some (.integer (-n)) else ofDecimal? true whole [] 0
  else
    if n ≤ greatestSignificand then some (.integer n) else ofDecimal? false whole [] 0

/-- The text of a number. -/
def text : Number → String
  | .integer n => String.ofList (Numeral.signed n)
  | .real x => Layout.message.write x

end Number

end TaskWatch
