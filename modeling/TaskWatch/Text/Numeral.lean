/-!
# Decimal numerals

`digits` writes a natural in base ten, and `value` reads digits back.

* `value_digits`: what `digits` writes is read back;
* `digits_all`: a numeral holds digits only.
-/

namespace TaskWatch.Numeral

/-- The digit for a number below ten. -/
def digitChar (n : Nat) : Char :=
  Char.ofNat (0x30 + n)

/-- The number that a digit stands for. -/
def digitValue (c : Char) : Nat :=
  c.toNat - 0x30

/-- The digits `0` to `9`. -/
def isDigit (c : Char) : Bool :=
  0x30 ≤ c.toNat && c.toNat ≤ 0x39

/-- The numeral of a natural, without leading zeros. -/
def digits (n : Nat) : List Char :=
  if n < 10 then [digitChar n] else digits (n / 10) ++ [digitChar (n % 10)]

/-- The natural that a row of digits spells; leading zeros do not count. -/
def value (cs : List Char) : Nat :=
  cs.foldl (fun n c => 10 * n + digitValue c) 0

/-- The numeral with zeros in front, up to `width` digits. -/
def padded (width n : Nat) : List Char :=
  let ds := digits n
  List.replicate (width - ds.length) '0' ++ ds

/-- The numeral of an integer, with a sign only when it is negative. -/
def signed : Int → List Char
  | .ofNat n => digits n
  | .negSucc n => '-' :: digits (n + 1)

/-- The text of a natural. -/
def text (n : Nat) : String :=
  String.ofList (digits n)

/-! ## Laws -/

theorem digitValue_digitChar {n : Nat} (h : n < 10) : digitValue (digitChar n) = n := by
  have all : ∀ n, n < 10 → digitValue (digitChar n) = n := by decide
  exact all n h

theorem isDigit_digitChar {n : Nat} (h : n < 10) : isDigit (digitChar n) = true := by
  have all : ∀ n, n < 10 → isDigit (digitChar n) = true := by decide
  exact all n h

theorem value_append_singleton (cs : List Char) (c : Char) :
    value (cs ++ [c]) = 10 * value cs + digitValue c := by
  simp [value, List.foldl_append]

/-- Reading a numeral gives back its number. -/
theorem value_digits (n : Nat) : value (digits n) = n := by
  rw [digits]
  split
  · next h => simp [value, digitValue_digitChar h]
  · rw [value_append_singleton, value_digits (n / 10), digitValue_digitChar (by omega)]
    omega
termination_by n
decreasing_by omega

/-- A numeral holds digits only. -/
theorem digits_all (n : Nat) : (digits n).all isDigit = true := by
  rw [digits]
  split
  · next h => simp [isDigit_digitChar h]
  · simp [digits_all (n / 10), isDigit_digitChar (show n % 10 < 10 by omega)]
termination_by n
decreasing_by omega

theorem digits_ne_nil (n : Nat) : digits n ≠ [] := by
  rw [digits]
  split <;> simp

end TaskWatch.Numeral
