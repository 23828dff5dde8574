/-!
# Blank characters

A character is *blank* when it has the Unicode property White_Space, and a text is blank when all
of its characters are. Every field that a person types or a daemon sends is read up to the blanks
around it, so `trim` is the first step of most rules of this library.

* `trim_trim`: trimming twice is trimming once;
* `trim_eq_empty_iff`: what is left is empty exactly when the text is blank.
-/

namespace TaskWatch.Text

/-- The characters of the Unicode property White_Space. -/
def isBlankChar (c : Char) : Bool :=
  let n := c.toNat
  (9 ≤ n && n ≤ 13) || n == 0x20 || n == 0x85 || n == 0xA0 || n == 0x1680 ||
    (0x2000 ≤ n && n ≤ 0x200A) || n == 0x2028 || n == 0x2029 || n == 0x202F || n == 0x205F ||
    n == 0x3000

/-- The characters between the first and the last that is not blank. -/
def trimChars (cs : List Char) : List Char :=
  ((cs.dropWhile isBlankChar).reverse.dropWhile isBlankChar).reverse

/-- The text without the blanks at its two ends. -/
def trim (s : String) : String :=
  String.ofList (trimChars s.toList)

/-- A blank text holds nothing but blanks; the empty text is blank. -/
def isBlank (s : String) : Bool :=
  s.toList.all isBlankChar

/-- The text between the blanks at its ends, when there is any. -/
def nonBlank? (s : String) : Option String :=
  if isBlank s then none else some (trim s)

/-- The first text of the list that is not blank, trimmed. -/
def firstNonBlank? (texts : List String) : Option String :=
  texts.findSome? nonBlank?

/-- The runs of characters between blanks, none of them empty. -/
def wordsOf (cs : List Char) : List (List Char) :=
  let runs := cs.foldr
    (fun c runs => if isBlankChar c then [] :: runs else
      match runs with
      | [] => [[c]]
      | run :: rest => (c :: run) :: rest)
    [[]]
  runs.filter (!·.isEmpty)

/-- The words of a text, in order. -/
def words (s : String) : List String :=
  (wordsOf s.toList).map String.ofList

/-! ## Laws -/

@[simp] theorem toList_trim (s : String) : (trim s).toList = trimChars s.toList := by
  simp [trim]

@[simp] theorem trim_empty : trim "" = "" := rfl

theorem dropWhile_eq_nil_iff_all {p : Char → Bool} {cs : List Char} :
    cs.dropWhile p = [] ↔ cs.all p = true := by
  induction cs with
  | nil => simp
  | cons c cs ih => cases h : p c <;> simp [h, ih]

/-- A list that starts with no blank keeps its head when blanks are dropped. -/
theorem dropWhile_dropWhile (p : Char → Bool) (cs : List Char) :
    (cs.dropWhile p).dropWhile p = cs.dropWhile p := by
  induction cs with
  | nil => rfl
  | cons c cs ih => cases h : p c <;> simp [h, ih]

/-- Blanks dropped from the end leave the start as it is, up to what is dropped. -/
theorem dropWhile_reverse_dropWhile (p : Char → Bool) (cs : List Char)
    (h : cs.dropWhile p = cs) :
    ((cs.reverse.dropWhile p).reverse).dropWhile p = (cs.reverse.dropWhile p).reverse := by
  cases cs with
  | nil => rfl
  | cons c cs =>
    have hc : p c = false := by
      cases hp : p c with
      | false => rfl
      | true =>
        have hlen := congrArg List.length h
        have hle : (cs.dropWhile p).length ≤ cs.length := (List.dropWhile_sublist p).length_le
        simp [hp] at hlen
        omega
    have hsplit : ∀ xs : List Char, ((xs ++ [c]).dropWhile p) = xs.dropWhile p ++ [c] := by
      intro xs
      induction xs with
      | nil => simp [hc]
      | cons x xs ih => cases hx : p x <;> simp [hx, ih]
    simp [hsplit, hc]

theorem trimChars_trimChars (cs : List Char) : trimChars (trimChars cs) = trimChars cs := by
  unfold trimChars
  rw [dropWhile_reverse_dropWhile isBlankChar _ (dropWhile_dropWhile isBlankChar cs),
    List.reverse_reverse, dropWhile_dropWhile]

/-- Trimming twice is trimming once. -/
@[simp] theorem trim_trim (s : String) : trim (trim s) = trim s := by
  apply String.toList_injective
  simp [trimChars_trimChars]

/-- There is no blank to trim between a character that is not blank and another. -/
theorem trimChars_of_ends {c d : Char} {cs init : List Char} (hc : isBlankChar c = false)
    (hd : isBlankChar d = false) (h : c :: cs = init ++ [d]) :
    trimChars (c :: cs) = c :: cs := by
  rw [trimChars, List.dropWhile_cons_of_neg (by rw [hc]; exact Bool.false_ne_true), h,
    List.reverse_append, List.reverse_singleton, List.singleton_append,
    List.dropWhile_cons_of_neg (by rw [hd]; exact Bool.false_ne_true), List.reverse_cons,
    List.reverse_reverse]

theorem trimChars_eq_nil_iff (cs : List Char) :
    trimChars cs = [] ↔ cs.all isBlankChar = true := by
  unfold trimChars
  rw [List.reverse_eq_nil_iff, dropWhile_eq_nil_iff_all, List.all_reverse,
    ← dropWhile_eq_nil_iff_all, dropWhile_dropWhile, dropWhile_eq_nil_iff_all]

/-- What trimming leaves is empty exactly when the text is blank. -/
theorem trim_eq_empty_iff (s : String) : trim s = "" ↔ isBlank s = true := by
  rw [isBlank, ← trimChars_eq_nil_iff, ← toList_trim]
  constructor
  · intro h; simp [h]
  · intro h; apply String.toList_injective; simpa using h

end TaskWatch.Text
