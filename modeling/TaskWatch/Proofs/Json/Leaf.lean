import TaskWatch.Json.Reader
import TaskWatch.Proofs.Text.Numeral

/-!
# Reading back the leaves of a JSON text

* `readString?_escape`: a quoted text is read back, whatever its characters are;
* `readNumber?_text`: an integer that fits in 64 bits, with or without a sign, is read back, as
  long as nothing follows it that could belong to a number (`NumberEnds`).
-/

namespace TaskWatch.Document

/-! ## Strings -/

theorem hexValue?_hexDigit {n : Nat} (h : n < 16) : hexValue? (Json.hexDigit n) = some n := by
  have all : ∀ n, n < 16 → hexValue? (Json.hexDigit n) = some n := by decide
  exact all n h

/-- The numeric escape of a control character. -/
theorem hexUnit?_control {c : Char} (h : c.toNat < 32) :
    hexUnit? '0' '0' (Json.hexDigit (c.toNat / 16)) (Json.hexDigit (c.toNat % 16)) =
      some (.char c) := by
  have hzero : hexValue? '0' = some 0 := by decide
  have hcode : 4096 * 0 + 256 * 0 + 16 * (c.toNat / 16) + c.toNat % 16 = c.toNat := by omega
  rw [hexUnit?, hzero, hexValue?_hexDigit (by omega), hexValue?_hexDigit (by omega)]
  simp only [Option.bind_eq_bind, Option.bind_some]
  rw [hcode, if_neg (by omega), Char.ofNat_toNat]

/-- A character is read back from the way it stands inside a quoted text. -/
theorem readUnits?_escape (c : Char) (cs : List Char) :
    readUnits? (Json.escape c ++ cs) =
      (readUnits? cs).map fun read => (.char c :: read.1, read.2) := by
  have letter : ∀ e, e ≠ 'u' → escaped? e = some c →
      readUnits? ('\\' :: e :: cs) =
        (readUnits? cs).map fun read => (.char c :: read.1, read.2) := by
    intro e hu he
    rw [readUnits?, he]
    · cases readUnits? cs <;> rfl
    · intro _ _ _ _ _ h _
      exact hu h
  have code : ∀ {n}, c.toNat = n → c = Char.ofNat n := by
    intro n h
    rw [← h, Char.ofNat_toNat]
  rw [Json.escape]
  split
  · next h => exact letter '"' (by decide) (by rw [h]; decide)
  split
  · next h => exact letter '\\' (by decide) (by rw [h]; decide)
  split
  · next h => exact letter 'b' (by decide) (by rw [code h]; decide)
  split
  · next h => exact letter 't' (by decide) (by rw [code h]; decide)
  split
  · next h => exact letter 'n' (by decide) (by rw [code h]; decide)
  split
  · next h => exact letter 'f' (by decide) (by rw [code h]; decide)
  split
  · next h => exact letter 'r' (by decide) (by rw [code h]; decide)
  split
  · next h =>
    rw [List.cons_append, List.cons_append, List.cons_append, List.cons_append, List.cons_append,
      List.cons_append, List.nil_append, readUnits?, hexUnit?_control h]
    cases readUnits? cs <;> rfl
  · next hquote hback _ _ _ _ _ hplain =>
    rw [List.singleton_append, readUnits?, if_neg (not_or.mpr ⟨hplain, hback⟩)]
    · cases readUnits? cs <;> rfl
    · exact hquote
    · intro _ _ _ _ _ h _
      exact hback h
    · intro _ _ h _
      exact hback h

theorem readUnits?_flatMap (cs rest : List Char) :
    readUnits? (cs.flatMap Json.escape ++ '"' :: rest) = some (cs.map .char, rest) := by
  induction cs with
  | nil => simp [readUnits?]
  | cons c cs ih =>
    rw [List.flatMap_cons, List.append_assoc, readUnits?_escape, ih]
    rfl

theorem joinUnits?_map (cs : List Char) : joinUnits? (cs.map .char) = some cs := by
  induction cs with
  | nil => rfl
  | cons c cs ih => rw [List.map_cons, joinUnits?, ih, Option.map_some]

/-- A text is read back from the way it is written, up to its closing quote. -/
theorem readString?_escape (s : String) (rest : List Char) :
    readString? (s.toList.flatMap Json.escape ++ '"' :: rest) = some (some s, rest) := by
  simp only [readString?, readUnits?_flatMap, Option.map_some, joinUnits?_map,
    String.ofList_toList]

/-! ## Numbers -/

/-- Nothing at the start that could belong to a number in front of it. -/
def NumberEnds (rest : List Char) : Prop :=
  ∀ c ∈ rest.head?, Numeral.isDigit c = false ∧ c ≠ '.' ∧ c ≠ 'e' ∧ c ≠ 'E'

theorem numberEnds_nil : NumberEnds [] := by
  intro c hc
  cases hc

theorem numberEnds_cons {c : Char} (rest : List Char)
    (hc : Numeral.isDigit c = false ∧ c ≠ '.' ∧ c ≠ 'e' ∧ c ≠ 'E') : NumberEnds (c :: rest) := by
  intro d hd
  cases hd
  exact hc

theorem readWhole?_digits (n : Nat) {rest : List Char} (hrest : NumberEnds rest) :
    readWhole? (Numeral.digits n ++ rest) = some (Numeral.digits n, rest) := by
  have hspan : spanDigits (Numeral.digits n ++ rest) = (Numeral.digits n, rest) :=
    Numeral.span_digits (Numeral.digits_all n) fun c hc => (hrest c hc).1
  obtain ⟨c, cs, hdigits, -, hzero⟩ := Numeral.exists_digits_eq_cons n
  rw [readWhole?, hspan, hdigits]
  split
  · next h => cases h
  · next h => cases h; rfl
  · next h =>
    cases h
    exact absurd (hzero rfl).2 ‹_›
  · next h => cases h; rfl

theorem readFraction?_end {rest : List Char} (hrest : NumberEnds rest) :
    readFraction? rest = some (none, rest) := by
  rw [readFraction?]
  rintro cs rfl
  exact (hrest '.' rfl).2.1 rfl

theorem readExponent?_end {rest : List Char} (hrest : NumberEnds rest) :
    readExponent? rest = some (none, rest) := by
  cases rest with
  | nil => rfl
  | cons c cs =>
    have hc := hrest c rfl
    unfold readExponent?
    exact if_neg (not_or.mpr ⟨hc.2.2.1, hc.2.2.2⟩)

theorem readUnsigned?_digits (negative : Bool) (n : Nat) {rest : List Char}
    (hrest : NumberEnds rest) :
    readUnsigned? negative (Numeral.digits n ++ rest) =
      some (Number.ofDigits? negative (Numeral.digits n), rest) := by
  rw [readUnsigned?, readWhole?_digits n hrest]
  simp only [Option.bind_eq_bind, Option.bind_some, readFraction?_end hrest,
    readExponent?_end hrest]

end TaskWatch.Document

namespace TaskWatch

/-- An integer that keeps its value when it is read: one of 64 bits, with or without a sign. -/
def Number.IsInteger : Number → Prop
  | .integer n => -Nat.pow 2 63 ≤ n ∧ n ≤ Number.greatestSignificand
  | .real _ => False

namespace Document

theorem readNumber?_digits (n : Nat) (rest : List Char) :
    readNumber? (Numeral.digits n ++ rest) = readUnsigned? false (Numeral.digits n ++ rest) := by
  obtain ⟨c, cs, hdigits, hc, -⟩ := Numeral.exists_digits_eq_cons n
  rw [hdigits, List.cons_append, readNumber?]
  intro _ h
  cases h
  exact absurd hc (by decide)

/-- An integer is read back. -/
theorem readNumber?_text {n : Number} (hn : n.IsInteger) {rest : List Char}
    (hrest : NumberEnds rest) : readNumber? (n.text.toList ++ rest) = some (some n, rest) := by
  cases n with
  | real _ => exact hn.elim
  | integer n =>
    rw [Number.text, String.toList_ofList]
    cases n with
    | ofNat n =>
      have hle : n ≤ Number.greatestSignificand := Int.ofNat_le.mp hn.2
      rw [Numeral.signed, readNumber?_digits, readUnsigned?_digits _ _ hrest, Number.ofDigits?,
        Numeral.value_digits, if_neg Bool.false_ne_true, if_pos hle]
      rfl
    | negSucc n =>
      have hge := hn.1
      have hle : n + 1 ≤ Nat.pow 2 63 := by omega
      rw [Numeral.signed, List.cons_append, readNumber?, readUnsigned?_digits _ _ hrest,
        Number.ofDigits?, Numeral.value_digits, if_pos rfl, if_pos ⟨Nat.succ_ne_zero n, hle⟩]
      rfl

/-- A number starts with its sign or with a digit. -/
theorem exists_text_eq_cons {n : Number} (hn : n.IsInteger) :
    ∃ c cs, n.text.toList = c :: cs ∧ (c = '-' ∨ Numeral.isDigit c = true) := by
  cases n with
  | real _ => exact hn.elim
  | integer n =>
    rw [Number.text, String.toList_ofList]
    cases n with
    | ofNat n =>
      obtain ⟨c, cs, hdigits, hc, -⟩ := Numeral.exists_digits_eq_cons n
      exact ⟨c, cs, hdigits, .inr hc⟩
    | negSucc n => exact ⟨'-', _, rfl, .inl rfl⟩

end Document

end TaskWatch
