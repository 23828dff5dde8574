import TaskWatch.Proofs.Json.Tree

/-!
# JSON texts hold no control characters

A quoted text escapes every control character, and nothing else in a JSON text is one
(`Json.plain_chars`). So a JSON text stands on one line, whatever texts it holds.
-/

namespace TaskWatch.Json

/-- No character is a control character. -/
def Plain (cs : List Char) : Prop := ∀ c ∈ cs, 32 ≤ c.toNat

theorem Plain.append {cs ds : List Char} (hcs : Plain cs) (hds : Plain ds) : Plain (cs ++ ds) := by
  intro c hc
  obtain hc | hc := List.mem_append.1 hc
  · exact hcs c hc
  · exact hds c hc

theorem Plain.cons {c : Char} {cs : List Char} (hc : 32 ≤ c.toNat) (hcs : Plain cs) :
    Plain (c :: cs) :=
  List.forall_mem_cons.2 ⟨hc, hcs⟩

theorem Plain.of_all {cs : List Char} (h : cs.all (32 ≤ ·.toNat) = true) : Plain cs := by
  intro c hc
  exact of_decide_eq_true (List.all_eq_true.1 h c hc)

theorem plain_of_isDigit {cs : List Char} (h : cs.all Numeral.isDigit = true) : Plain cs := by
  intro c hc
  have hdigit := List.all_eq_true.1 h c hc
  rw [Numeral.isDigit, Bool.and_eq_true, decide_eq_true_iff] at hdigit
  omega

theorem toNat_hexDigit {n : Nat} (h : n < 16) : 32 ≤ (hexDigit n).toNat := by
  have hall : ∀ k : Fin 16, 32 ≤ (hexDigit k).toNat := by decide
  exact hall ⟨n, h⟩

/-- A control character is written as an escape. -/
theorem plain_escape (c : Char) : Plain (escape c) := by
  have hpair (d : Char) (hd : 32 ≤ d.toNat) : Plain ['\\', d] :=
    .cons (by decide) (.cons hd nofun)
  unfold escape
  iterate 7
    split
    · exact hpair _ (by decide)
  split
  · next hcontrol =>
    have hhigh := toNat_hexDigit (n := c.toNat / 16) (by omega)
    have hlow := toNat_hexDigit (n := c.toNat % 16) (by omega)
    have hunicode : Plain ['\\', 'u', '0', '0'] := .of_all (by decide)
    exact hunicode.append (.cons hhigh (.cons hlow nofun))
  · next hcontrol => exact .cons (by omega) nofun

theorem plain_quote (s : String) : Plain (quote s) := by
  have hinner : Plain (s.toList.flatMap escape) := by
    intro c hc
    obtain ⟨d, -, hd⟩ := List.mem_flatMap.1 hc
    exact plain_escape d c hd
  rw [quote]
  exact (Plain.cons (by decide) hinner).append (.cons (by decide) nofun)

/-! ## Numbers -/

theorem Plain.text_append {s t : String} (hs : Plain s.toList) (ht : Plain t.toList) :
    Plain (s ++ t).toList := by
  rw [String.toList_append]
  exact hs.append ht

theorem plain_digits (n : Nat) : Plain (Numeral.digits n) := plain_of_isDigit (Numeral.digits_all n)

theorem plain_zeros (n : Nat) : Plain (List.replicate n '0') := fun c hc => by
  rw [List.eq_of_mem_replicate hc]
  decide

/-- The text of a floating point number has digits, a point, signs and the mark of an exponent. -/
theorem plain_writeMagnitude (m : Magnitude) : Plain (Layout.message.writeMagnitude m).toList := by
  have hmark : Plain Layout.message.wholeMark.toList := .of_all (by decide)
  have hdigits := plain_digits (Decimal.shortest m).digits
  unfold Layout.writeMagnitude
  dsimp only
  generalize Numeral.digits (Decimal.shortest m).digits = digits at hdigits
  split
  · exact Plain.text_append (.of_all (by decide)) hmark
  · split
    · split
      · refine Plain.text_append ?_ hmark
        rw [String.toList_ofList]
        exact hdigits.append (plain_zeros _)
      · split
        · rw [String.toList_ofList, List.splitAt_eq]
          refine Plain.append (fun c hc => hdigits c (List.mem_of_mem_take hc)) ?_
          exact .cons (by decide) fun c hc => hdigits c (List.mem_of_mem_drop hc)
        · rw [String.toList_ofList]
          exact .cons (by decide) (.cons (by decide) ((plain_zeros _).append hdigits))
    · refine .text_append (.text_append (.text_append ?_ (.of_all (by decide))) ?_) ?_
      · rw [String.toList_ofList]
        match digits, hdigits with
        | [], _ => exact nofun
        | [_], hone => exact hone
        | d :: _ :: _, hmore =>
          have hrest : Plain _ := fun c hc => hmore c (List.mem_cons_of_mem d hc)
          exact .cons (hmore d List.mem_cons_self) (.cons (by decide) hrest)
      · split <;> exact .of_all (by decide)
      · rw [Numeral.text, String.toList_ofList]
        exact plain_digits _

theorem plain_number (n : Number) : Plain n.text.toList := by
  cases n with
  | real x =>
    rw [Number.text, Layout.write]
    split
    · exact Plain.text_append (.of_all (by decide)) (plain_writeMagnitude x.magnitude)
    · exact plain_writeMagnitude x.magnitude
  | integer n =>
    rw [Number.text, String.toList_ofList]
    cases n with
    | ofNat n => exact plain_digits n
    | negSucc n => exact .cons (by decide) (plain_digits (n + 1))

/-! ## Values -/

mutual

/-- The text of a value holds no control characters. -/
theorem plain_chars (v : Json) : Plain v.chars := by
  match v with
  | .null => exact .of_all (by decide +kernel)
  | .bool true => exact .of_all (by decide +kernel)
  | .bool false => exact .of_all (by decide +kernel)
  | .string s => exact plain_quote s
  | .number n => exact plain_number n
  | .array items =>
    rw [chars]
    exact (Plain.cons (by decide) (plain_itemChars items)).append (.cons (by decide) nofun)
  | .object members =>
    rw [chars]
    exact (Plain.cons (by decide) (plain_memberChars members)).append (.cons (by decide) nofun)
termination_by structural v

theorem plain_itemChars (items : List Json) : Plain (itemChars items) := by
  match items with
  | [] => exact nofun
  | [item] => exact plain_chars item
  | item :: next :: more =>
    have hmore : Plain (itemChars (next :: more)) := plain_itemChars (next :: more)
    rw [Document.itemChars_cons_cons]
    exact (plain_chars item).append (.cons (by decide) hmore)
termination_by structural items

theorem plain_memberChars (members : Members) : Plain (memberChars members) := by
  match members with
  | [] => exact nofun
  | [(key, value)] =>
    rw [memberChars]
    exact (plain_quote key).append (.cons (by decide) (plain_chars value))
  | (key, value) :: next :: more =>
    have hmore : Plain (memberChars (next :: more)) := plain_memberChars (next :: more)
    have hmember : Plain (quote key ++ ':' :: value.chars) :=
      (plain_quote key).append (.cons (by decide) (plain_chars value))
    rw [Document.memberChars_cons_cons]
    exact hmember.append (.cons (by decide) hmore)
termination_by structural members

end

end TaskWatch.Json
