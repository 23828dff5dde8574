import TaskWatch.Text.Blank
import TaskWatch.Text.CaseTable

/-!
# Letter case

`lower` and `capitalize` follow the full Unicode mappings: a letter may become several characters,
and a capital sigma at the end of a word becomes the final small sigma. Where only the letters A to
Z count, the rules use `asciiLower` and `eqIgnoringAsciiCase` instead.

* `eqIgnoringAsciiCase_refl`, `eqIgnoringAsciiCase_comm`: equality up to ASCII case is reflexive
  and symmetric.
-/

namespace TaskWatch.Text

/-! ## ASCII -/

/-- The text with A to Z made small. -/
def asciiLower (s : String) : String :=
  String.ofList (s.toList.map Char.toLower)

/-- Equality that takes A to Z and a to z as the same letters. -/
def eqIgnoringAsciiCase (s t : String) : Bool :=
  s.toList.map Char.toLower == t.toList.map Char.toLower

@[simp] theorem eqIgnoringAsciiCase_refl (s : String) : eqIgnoringAsciiCase s s = true := by
  simp [eqIgnoringAsciiCase]

theorem eqIgnoringAsciiCase_comm (s t : String) :
    eqIgnoringAsciiCase s t = eqIgnoringAsciiCase t s := by
  simp only [eqIgnoringAsciiCase]
  exact Bool.beq_comm

theorem eqIgnoringAsciiCase_iff (s t : String) :
    eqIgnoringAsciiCase s t = true ↔ asciiLower s = asciiLower t := by
  constructor
  · intro h
    simp only [eqIgnoringAsciiCase, beq_iff_eq] at h
    simp [asciiLower, h]
  · intro h
    have := congrArg String.toList h
    simpa [asciiLower, eqIgnoringAsciiCase] using this

/-! ## Unicode -/

/-- Whether one of the ranges holds the character. -/
def inRanges (ranges : List (Nat × Nat)) (c : Char) : Bool :=
  ranges.any fun (first, last) => first ≤ c.toNat && c.toNat ≤ last

/-- The small form of one character, apart from what a capital sigma takes from its word. -/
def lowerChar (c : Char) : List Char :=
  if c.toNat < 0x80 then [c.toLower]
  else if c.toNat == 0x130 then ['i', Char.ofNat 0x307]
  else [(lowerRuns.findSome? (·.image? c.toNat)).getD c]

/-- The capital form of one character. -/
def upperChar (c : Char) : List Char :=
  if c.toNat < 0x80 then [c.toUpper]
  else match upperExpansions.find? (·.1 == c.toNat) with
    | some (_, expansion) => expansion.map Char.ofNat
    | none => [(upperRuns.findSome? (·.image? c.toNat)).getD c]

/-- Whether the first character that is not case-ignorable is a cased one. -/
def startsCased (cs : List Char) : Bool :=
  match cs.dropWhile (inRanges caseIgnorableRanges) with
  | [] => false
  | c :: _ => inRanges casedRanges c

/-- The small form of `cs`, where `before` holds the characters in front of it, nearest first. A
capital sigma is final when cased letters stand before it and none after it. -/
def lowerAfter (before : List Char) : List Char → List Char
  | [] => []
  | c :: rest =>
    let lowered :=
      if c == 'Σ' then
        [if startsCased before && !startsCased rest then 'ς' else 'σ']
      else lowerChar c
    lowered ++ lowerAfter (c :: before) rest

/-- The text in small letters. -/
def lower (s : String) : String :=
  String.ofList (lowerAfter [] s.toList)

/-- The word in small letters but for its first character, which is made capital. -/
def capitalize (word : String) : String :=
  match lowerAfter [] word.toList with
  | [] => ""
  | c :: rest => String.ofList (upperChar c ++ rest)

end TaskWatch.Text
