import Mathlib.Data.List.Induction
import Mathlib.Data.List.TakeDrop
import TaskWatch.Text.Numeral

/-!
# Numerals of a width, and where a numeral ends

* `length_padded`, `value_padded`, `padded_all`: a numeral filled up with zeros has its width, its
  value and nothing but digits, as long as the number has no more digits than that;
* `value_lt`: a row of digits spells no more than its length allows;
* `exists_digits_eq_cons`: only the numeral of zero starts with a zero;
* `span_digits`: the digits in front of something else are found as a whole.
-/

namespace TaskWatch.Numeral

/-! ## Length and value -/

theorem length_digits_le {n width : Nat} (hwidth : 0 < width) (h : n < Nat.pow 10 width) :
    (digits n).length ≤ width := by
  induction width generalizing n with
  | zero => exact absurd hwidth (Nat.lt_irrefl 0)
  | succ width ih =>
    rw [digits]
    split
    · exact Nat.succ_pos width
    · next hn =>
      have hpow : Nat.pow 10 (width + 1) = Nat.pow 10 width * 10 := rfl
      have hpos : 0 < width := by
        -- a number with one digit has no others in front of it
        refine Nat.pos_of_ne_zero fun hzero => hn ?_
        rw [hzero] at h
        exact h
      have hlen := ih (n := n / 10) hpos (by omega)
      rw [List.length_append, List.length_singleton]
      omega

theorem value_append (xs ys : List Char) :
    value (xs ++ ys) = value xs * Nat.pow 10 ys.length + value ys := by
  induction ys using List.reverseRecOn with
  | nil => simp [value]
  | append_singleton ys c ih =>
    have hpow : Nat.pow 10 (ys.length + 1) = Nat.pow 10 ys.length * 10 := rfl
    rw [← List.append_assoc, value_append_singleton, ih, value_append_singleton,
      List.length_append, List.length_singleton, hpow, ← Nat.mul_assoc]
    omega

theorem value_replicate_zero (n : Nat) : value (List.replicate n '0') = 0 := by
  induction n with
  | zero => rfl
  | succ n ih =>
    rw [List.replicate_succ', value_append_singleton, ih]
    rfl

theorem value_padded (width n : Nat) : value (padded width n) = n := by
  rw [padded, value_append, value_replicate_zero, value_digits, Nat.zero_mul, Nat.zero_add]

theorem length_padded {width n : Nat} (hwidth : 0 < width) (h : n < Nat.pow 10 width) :
    (padded width n).length = width := by
  have hle := length_digits_le hwidth h
  rw [padded, List.length_append, List.length_replicate]
  omega

theorem padded_all (width n : Nat) : (padded width n).all isDigit = true := by
  rw [padded, List.all_append, digits_all, Bool.and_true, List.all_replicate]
  cases width - (digits n).length <;> rfl

theorem digitValue_le {c : Char} (h : isDigit c = true) : digitValue c ≤ 9 := by
  rw [isDigit, Bool.and_eq_true, decide_eq_true_iff, decide_eq_true_iff] at h
  rw [digitValue]
  omega

theorem value_lt {cs : List Char} (h : cs.all isDigit = true) :
    value cs < Nat.pow 10 cs.length := by
  induction cs using List.reverseRecOn with
  | nil => exact Nat.one_pos
  | append_singleton cs c ih =>
    rw [List.all_append, Bool.and_eq_true, List.all_cons, List.all_nil, Bool.and_true] at h
    have hpow : Nat.pow 10 (cs.length + 1) = Nat.pow 10 cs.length * 10 := rfl
    have hcs := ih h.1
    have hc := digitValue_le h.2
    rw [value_append_singleton, List.length_append, List.length_singleton, hpow]
    omega

/-! ## The first digit and the end -/

/-- A numeral starts with a digit, and with a zero only if the number is zero. -/
theorem exists_digits_eq_cons (n : Nat) :
    ∃ c cs, digits n = c :: cs ∧ isDigit c = true ∧ (c = '0' → n = 0 ∧ cs = []) := by
  rw [digits]
  split
  · next h =>
    refine ⟨_, _, rfl, isDigit_digitChar h, fun hzero => ⟨?_, rfl⟩⟩
    have hvalue := congrArg digitValue hzero
    rwa [digitValue_digitChar h] at hvalue
  · obtain ⟨c, cs, hc, hdigit, hzero⟩ := exists_digits_eq_cons (n / 10)
    refine ⟨c, cs ++ [digitChar (n % 10)], by rw [hc]; rfl, hdigit, fun h => ?_⟩
    have := (hzero h).1
    omega
termination_by n
decreasing_by omega

/-- Digits in front of something else are found as a whole. -/
theorem span_digits {ds rest : List Char} (hds : ds.all isDigit = true)
    (hrest : ∀ c ∈ rest.head?, isDigit c = false) : (ds ++ rest).span isDigit = (ds, rest) := by
  rw [List.span_eq_takeWhile_dropWhile]
  induction ds with
  | nil =>
    cases rest with
    | nil => rfl
    | cons c rest =>
      have hc : isDigit c = false := hrest c rfl
      rw [List.nil_append, List.takeWhile_cons, List.dropWhile_cons, hc]
      rfl
  | cons d ds ih =>
    rw [List.all_cons, Bool.and_eq_true] at hds
    have hih := ih hds.2
    rw [Prod.mk.injEq] at hih
    rw [List.cons_append, List.takeWhile_cons, List.dropWhile_cons, hds.1, if_pos rfl, if_pos rfl,
      hih.1, hih.2]

end TaskWatch.Numeral
