import TaskWatch.Proofs.Json.Leaf

/-!
# Reading back a JSON value

A value whose numbers are integers of 64 bits (`Json.Integral`) is read back from its text as the
document of it, `Document.ofText?_text`.

A reader of values has fuel for two steps per character. `readValue?_chars`, `readItems?_chars` and
`readMembers?_chars` carry that bound along the three readers: a value needs two steps for each of
its characters, and a row of items or members one more, which it has from the bracket in front.
-/

namespace TaskWatch.Json

mutual

/-- Every number in a value is an integer of 64 bits, with or without a sign. -/
def Integral : Json → Prop
  | .number n => n.IsInteger
  | .array items => IntegralItems items
  | .object members => IntegralMembers members
  | _ => True

/-- Every number in the items of an array is such an integer. -/
def IntegralItems : List Json → Prop
  | [] => True
  | item :: rest => item.Integral ∧ IntegralItems rest

/-- Every number in the members of an object is such an integer. -/
def IntegralMembers : List (String × Json) → Prop
  | [] => True
  | (_, value) :: rest => value.Integral ∧ IntegralMembers rest

end

theorem integralItems_of_forall {items : List Json} (h : ∀ item ∈ items, item.Integral) :
    IntegralItems items := by
  induction items with
  | nil => trivial
  | cons item rest ih =>
    exact ⟨h item List.mem_cons_self, ih fun v hv => h v (List.mem_cons_of_mem item hv)⟩

theorem integralMembers_of_forall {members : Members} (h : ∀ m ∈ members, m.2.Integral) :
    IntegralMembers members := by
  induction members with
  | nil => trivial
  | cons m rest ih =>
    exact ⟨h m List.mem_cons_self, ih fun v hv => h v (List.mem_cons_of_mem m hv)⟩

end TaskWatch.Json

namespace TaskWatch.Document

/-! ## The first character -/

theorem skipSpace_cons {c : Char} (hc : isSpace c = false) (cs : List Char) :
    skipSpace (c :: cs) = c :: cs :=
  List.dropWhile_cons_of_neg (by rw [hc]; exact Bool.false_ne_true)

theorem isSpace_of_number {c : Char} (hc : c = '-' ∨ Numeral.isDigit c = true) :
    isSpace c = false := by
  cases h : isSpace c with
  | false => rfl
  | true =>
    simp only [isSpace, Bool.or_eq_true, beq_iff_eq] at h
    rcases h with ((rfl | rfl) | rfl) | rfl <;> exact absurd hc (by decide)

/-- A value starts neither with a blank nor like the end of an array. -/
theorem exists_chars_eq_cons {v : Json} (hv : v.Integral) :
    ∃ c cs, v.chars = c :: cs ∧ isSpace c = false ∧ c ≠ ']' := by
  cases v with
  | null => exact ⟨'n', _, rfl, by decide, by decide⟩
  | bool b =>
    cases b with
    | false => exact ⟨'f', _, rfl, by decide, by decide⟩
    | true => exact ⟨'t', _, rfl, by decide, by decide⟩
  | string s => exact ⟨'"', _, rfl, by decide, by decide⟩
  | array items => exact ⟨'[', _, rfl, by decide, by decide⟩
  | object members => exact ⟨'{', _, rfl, by decide, by decide⟩
  | number n =>
    obtain ⟨c, cs, hchars, hc⟩ := exists_text_eq_cons hv
    refine ⟨c, cs, hchars, isSpace_of_number hc, ?_⟩
    rintro rfl
    exact absurd hc (by decide)

theorem readValue?_number {c : Char} (hc : c = '-' ∨ Numeral.isDigit c = true) (fuel : Nat)
    (cs : List Char) :
    readValue? (fuel + 1) (c :: cs) =
      (readNumber? (c :: cs)).map fun (n, rest) => (.number n, rest) := by
  rw [readValue?, skipSpace_cons (isSpace_of_number hc)]
  split
  case h_7 => rfl
  all_goals
    next h =>
      cases h
      exact absurd hc (by decide)

theorem readValue?_array {c : Char} (hspace : isSpace c = false) (hc : c ≠ ']') (fuel : Nat)
    (cs : List Char) :
    readValue? (fuel + 1) ('[' :: c :: cs) =
      (readItems? fuel (c :: cs)).map fun (items, rest) => (.array items, rest) := by
  rw [readValue?, skipSpace_cons (by decide)]
  simp only [skipSpace_cons hspace]
  split
  · next h => exact absurd (List.cons.inj h).1 hc
  · rfl

theorem readValue?_object {c : Char} (hspace : isSpace c = false) (hc : c ≠ '}') (fuel : Nat)
    (cs : List Char) :
    readValue? (fuel + 1) ('{' :: c :: cs) =
      (readMembers? fuel (c :: cs)).map fun (members, rest) => (.object members, rest) := by
  rw [readValue?, skipSpace_cons (by decide)]
  simp only [skipSpace_cons hspace]
  split
  · next h => exact absurd (List.cons.inj h).1 hc
  · rfl

/-! ## Values -/

theorem itemChars_cons_cons (item next : Json) (rest : List Json) :
    Json.itemChars (item :: next :: rest) = item.chars ++ ',' :: Json.itemChars (next :: rest) := by
  rw [Json.itemChars]
  exact List.cons_ne_nil next rest

theorem memberChars_cons_cons (m next : String × Json) (rest : Members) :
    Json.memberChars (m :: next :: rest) =
      Json.quote m.1 ++ ':' :: m.2.chars ++ ',' :: Json.memberChars (next :: rest) := by
  rw [Json.memberChars]
  exact List.cons_ne_nil next rest

theorem exists_itemChars_eq_cons {item : Json} (hitem : item.Integral) (rest : List Json) :
    ∃ c cs, Json.itemChars (item :: rest) = c :: cs ∧ isSpace c = false ∧ c ≠ ']' := by
  obtain ⟨c, cs, hchars, hc⟩ := exists_chars_eq_cons hitem
  cases rest with
  | nil => exact ⟨c, cs, by rw [Json.itemChars, hchars], hc⟩
  | cons next rest => exact ⟨c, _, by rw [itemChars_cons_cons, hchars, List.cons_append], hc⟩

theorem exists_memberChars_eq_cons (m : String × Json) (rest : Members) :
    ∃ cs, Json.memberChars (m :: rest) = '"' :: cs := by
  cases rest with
  | nil => exact ⟨_, by rw [Json.memberChars, Json.quote, List.cons_append, List.cons_append]⟩
  | cons next rest =>
    exact ⟨_, by rw [memberChars_cons_cons, Json.quote, List.cons_append, List.cons_append,
      List.cons_append]⟩

theorem readMembers?_last {fuel : Nat} {value : Document} {cs rest : List Char} (key : String)
    (hvalue : readValue? fuel cs = some (value, '}' :: rest)) :
    readMembers? (fuel + 1) (Json.quote key ++ ':' :: cs) = some ([(some key, value)], rest) := by
  rw [Json.quote, List.append_assoc, List.cons_append, readMembers?, skipSpace_cons (by decide),
    List.singleton_append]
  simp only [readString?_escape, Option.bind_eq_bind, Option.bind_some,
    skipSpace_cons (show isSpace ':' = false by decide), hvalue,
    skipSpace_cons (show isSpace '}' = false by decide)]

theorem readMembers?_more {fuel : Nat} {value : Document} {cs next rest : List Char}
    {members : List (Option String × Document)} (key : String)
    (hvalue : readValue? fuel cs = some (value, ',' :: next))
    (hmore : readMembers? fuel next = some (members, rest)) :
    readMembers? (fuel + 1) (Json.quote key ++ ':' :: cs) =
      some ((some key, value) :: members, rest) := by
  rw [Json.quote, List.append_assoc, List.cons_append, readMembers?, skipSpace_cons (by decide),
    List.singleton_append]
  simp only [readString?_escape, Option.bind_eq_bind, Option.bind_some,
    skipSpace_cons (show isSpace ':' = false by decide), hvalue,
    skipSpace_cons (show isSpace ',' = false by decide), hmore]

mutual

/-- A value is read back from its characters. -/
theorem readValue?_chars (v : Json) (hv : v.Integral) {fuel : Nat} {rest : List Char}
    (hfuel : 2 * v.chars.length ≤ fuel) (hrest : NumberEnds rest) :
    readValue? fuel (v.chars ++ rest) = some (ofJson v, rest) := by
  obtain ⟨fuel, rfl⟩ : ∃ n, fuel = n + 1 := by
    obtain ⟨c, cs, hchars, -⟩ := exists_chars_eq_cons hv
    rw [hchars, List.length_cons] at hfuel
    exact ⟨fuel - 1, by omega⟩
  match v with
  | .null => rfl
  | .bool true => rfl
  | .bool false => rfl
  | .string s =>
    rw [Json.chars, Json.quote, List.append_assoc, List.cons_append, readValue?,
      skipSpace_cons (by decide), List.singleton_append]
    simp only [readString?_escape, Option.map_some, ofJson]
  | .number n =>
    obtain ⟨c, cs, hchars, hc⟩ := exists_text_eq_cons hv
    have hread := readNumber?_text hv hrest
    rw [hchars, List.cons_append] at hread
    rw [Json.chars, hchars, List.cons_append, readValue?_number hc, hread]
    rfl
  | .array [] => rfl
  | .array (item :: items) =>
    obtain ⟨c, cs, hchars, hspace, hc⟩ := exists_itemChars_eq_cons hv.1 items
    rw [Json.chars, List.length_append, List.length_cons, List.length_singleton] at hfuel
    have hitems : readItems? fuel (Json.itemChars (item :: items) ++ ']' :: rest) =
        some (ofItems (item :: items), rest) :=
      readItems?_chars (item :: items) hv (List.cons_ne_nil item items) (by omega)
    rw [hchars, List.cons_append] at hitems
    rw [Json.chars, List.append_assoc, List.singleton_append, List.cons_append, hchars,
      List.cons_append, readValue?_array hspace hc, hitems]
    rfl
  | .object [] => rfl
  | .object (m :: members) =>
    obtain ⟨cs, hchars⟩ := exists_memberChars_eq_cons m members
    rw [Json.chars, List.length_append, List.length_cons, List.length_singleton] at hfuel
    have hmembers : readMembers? fuel (Json.memberChars (m :: members) ++ '}' :: rest) =
        some (ofMembers (m :: members), rest) :=
      readMembers?_chars (m :: members) hv (List.cons_ne_nil m members) (by omega)
    rw [hchars, List.cons_append] at hmembers
    rw [Json.chars, List.append_assoc, List.singleton_append, List.cons_append, hchars,
      List.cons_append, readValue?_object (by decide) (by decide), hmembers]
    rfl
termination_by structural v

/-- The items of an array are read back, up to its bracket. -/
theorem readItems?_chars (items : List Json) (hitems : Json.IntegralItems items)
    (hne : items ≠ []) {fuel : Nat} {rest : List Char}
    (hfuel : 2 * (Json.itemChars items).length + 1 ≤ fuel) :
    readItems? fuel (Json.itemChars items ++ ']' :: rest) = some (ofItems items, rest) := by
  obtain ⟨fuel, rfl⟩ : ∃ n, fuel = n + 1 := ⟨fuel - 1, by omega⟩
  match items with
  | [] => exact absurd rfl hne
  | [item] =>
    rw [Json.itemChars] at hfuel ⊢
    have hitem : readValue? fuel (item.chars ++ ']' :: rest) = some (ofJson item, ']' :: rest) :=
      readValue?_chars item hitems.1 (by omega) (numberEnds_cons rest (by decide))
    rw [readItems?, hitem]
    rfl
  | item :: next :: more =>
    rw [itemChars_cons_cons, List.length_append, List.length_cons] at hfuel
    have hmore : readItems? fuel (Json.itemChars (next :: more) ++ ']' :: rest) =
        some (ofItems (next :: more), rest) :=
      readItems?_chars (next :: more) hitems.2 (List.cons_ne_nil next more) (by omega)
    rw [itemChars_cons_cons, List.append_assoc, List.cons_append, readItems?,
      readValue?_chars item hitems.1 (by omega) (numberEnds_cons _ (by decide))]
    simp only [Option.bind_eq_bind, Option.bind_some,
      skipSpace_cons (show isSpace ',' = false by decide), hmore, ofItems]
termination_by structural items

/-- The members of an object are read back, up to its brace. -/
theorem readMembers?_chars (members : Members) (hmembers : Json.IntegralMembers members)
    (hne : members ≠ []) {fuel : Nat} {rest : List Char}
    (hfuel : 2 * (Json.memberChars members).length + 1 ≤ fuel) :
    readMembers? fuel (Json.memberChars members ++ '}' :: rest) =
      some (ofMembers members, rest) := by
  obtain ⟨fuel, rfl⟩ : ∃ n, fuel = n + 1 := ⟨fuel - 1, by omega⟩
  match members with
  | [] => exact absurd rfl hne
  | [(key, value)] =>
    rw [Json.memberChars, List.length_append, List.length_cons] at hfuel
    have hvalue : readValue? fuel (value.chars ++ '}' :: rest) =
        some (ofJson value, '}' :: rest) :=
      readValue?_chars value hmembers.1 (by omega) (numberEnds_cons rest (by decide))
    rw [Json.memberChars, List.append_assoc, List.cons_append, readMembers?_last key hvalue]
    rfl
  | (key, value) :: next :: more =>
    rw [memberChars_cons_cons, List.length_append, List.length_append, List.length_cons,
      List.length_cons] at hfuel
    dsimp only at hfuel
    have hvalue :
        readValue? fuel (value.chars ++ ',' :: (Json.memberChars (next :: more) ++ '}' :: rest)) =
          some (ofJson value, ',' :: (Json.memberChars (next :: more) ++ '}' :: rest)) :=
      readValue?_chars value hmembers.1 (by omega) (numberEnds_cons _ (by decide))
    have hmore : readMembers? fuel (Json.memberChars (next :: more) ++ '}' :: rest) =
        some (ofMembers (next :: more), rest) :=
      readMembers?_chars (next :: more) hmembers.2 (List.cons_ne_nil next more) (by omega)
    rw [memberChars_cons_cons, List.append_assoc, List.append_assoc, List.cons_append,
      List.cons_append, readMembers?_more key hvalue hmore]
    rfl
termination_by structural members

end

/-- A value is read back from its text. -/
theorem ofText?_text {v : Json} (hv : v.Integral) : ofText? v.text = some (ofJson v) := by
  have hread : readValue? (2 * v.chars.length + 2) (v.chars ++ []) = some (ofJson v, []) :=
    readValue?_chars v hv (by omega) numberEnds_nil
  rw [List.append_nil] at hread
  rw [ofText?, Json.text, String.toList_ofList, ofChars?, hread]
  rfl

end TaskWatch.Document
