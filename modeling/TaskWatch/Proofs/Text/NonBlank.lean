import TaskWatch.Text.Blank

/-!
# What is kept of a text

A text that is not blank is kept without the blanks at its ends, and what was kept once is kept as
it is from then on (`nonBlank?_of_eq_some`). Texts of this kind are those that start and end with a
character that is not blank: `nonBlank?_of_ends`, `exists_ends`. So whatever is put between two of
them, nothing of it is lost (`nonBlank?_between`).
-/

namespace TaskWatch.Text

/-! ## Keeping twice -/

/-- What is kept of a text that is not blank is kept again. -/
theorem nonBlank?_of_eq_some {s kept : String} (h : nonBlank? s = some kept) :
    nonBlank? kept = some kept := by
  unfold nonBlank? at h
  split at h
  · cases h
  · next hs =>
    obtain rfl := Option.some.inj h
    have hkept : ¬isBlank (trim s) = true := by
      rw [← trim_eq_empty_iff, trim_trim, trim_eq_empty_iff]
      exact hs
    rw [nonBlank?, if_neg hkept, trim_trim]

theorem isBlank_of_nonBlank? {s kept : String} (h : nonBlank? s = some kept) :
    isBlank s = false := by
  cases hblank : isBlank s with
  | false => rfl
  | true =>
    rw [nonBlank?, if_pos hblank] at h
    cases h

theorem nonBlank?_of_isBlank {s : String} (h : isBlank s = false) : nonBlank? s = some (trim s) := by
  rw [nonBlank?, if_neg (Bool.eq_false_iff.1 h)]

/-- A text is blank if nothing of it remains when it is trimmed. -/
theorem nonBlank?_eq (s : String) :
    nonBlank? s = if trim s = "" then none else some (trim s) := by
  simp only [nonBlank?, trim_eq_empty_iff]

theorem trim_of_nonBlank? {s kept : String} (h : nonBlank? s = some kept) : trim s = kept := by
  unfold nonBlank? at h
  split at h
  · cases h
  · exact Option.some.inj h

theorem nonBlank?_of_firstNonBlank? {texts : List String} {kept : String}
    (h : firstNonBlank? texts = some kept) : nonBlank? kept = some kept := by
  obtain ⟨s, -, hs⟩ := List.exists_of_findSome?_eq_some h
  exact nonBlank?_of_eq_some hs

/-- The first text that is not blank, when one at the end never is. -/
theorem firstNonBlank?_concat (texts : List String) {last kept : String}
    (hlast : nonBlank? last = some kept) :
    firstNonBlank? (texts ++ [last]) = some ((firstNonBlank? texts).getD kept) := by
  rw [firstNonBlank?, List.findSome?_append, List.findSome?_singleton, hlast, ← firstNonBlank?]
  cases firstNonBlank? texts <;> rfl

/-! ## The ends of what is kept -/

theorem head_of_dropWhile {p : Char → Bool} {c : Char} {cs : List Char}
    (h : (c :: cs).dropWhile p = c :: cs) : p c = false := by
  cases hc : p c with
  | false => rfl
  | true =>
    have hle := (List.dropWhile_sublist (l := cs) p).length_le
    rw [List.dropWhile_cons_of_pos hc] at h
    rw [h, List.length_cons] at hle
    omega

/-- Trimmed characters neither start nor end with one that is blank. -/
theorem dropWhile_of_trimChars {cs : List Char} (h : trimChars cs = cs) :
    cs.dropWhile isBlankChar = cs ∧ cs.reverse.dropWhile isBlankChar = cs.reverse := by
  have hfirst : cs.dropWhile isBlankChar = cs := by
    rw [← h, trimChars]
    exact dropWhile_reverse_dropWhile isBlankChar _ (dropWhile_dropWhile isBlankChar cs)
  have hlast := congrArg List.reverse h
  rw [trimChars, hfirst, List.reverse_reverse] at hlast
  exact ⟨hfirst, hlast⟩

/-- A text that is kept as it is starts and ends with a character that is not blank. -/
theorem exists_ends {s : String} (h : nonBlank? s = some s) :
    (∃ c cs, s.toList = c :: cs ∧ isBlankChar c = false) ∧
      ∃ init d, s.toList = init ++ [d] ∧ isBlankChar d = false := by
  have htrim : trimChars s.toList = s.toList := by rw [← toList_trim, trim_of_nonBlank? h]
  obtain ⟨hfirst, hlast⟩ := dropWhile_of_trimChars htrim
  have hne : s.toList ≠ [] := by
    intro hnil
    have hblank := isBlank_of_nonBlank? h
    rw [isBlank, hnil] at hblank
    cases hblank
  constructor
  · obtain ⟨c, cs, hcons⟩ := List.exists_cons_of_ne_nil hne
    rw [hcons] at hfirst
    exact ⟨c, cs, hcons, head_of_dropWhile hfirst⟩
  · obtain ⟨d, ds, hcons⟩ := List.exists_cons_of_ne_nil (List.reverse_ne_nil_iff.2 hne)
    rw [hcons] at hlast
    refine ⟨ds.reverse, d, ?_, head_of_dropWhile hlast⟩
    rw [← List.reverse_cons, ← hcons, List.reverse_reverse]

/-- A text that starts and ends with a character that is not blank is kept as it is. -/
theorem nonBlank?_of_ends {s : String} {c d : Char} {cs init : List Char}
    (hfirst : s.toList = c :: cs) (hc : isBlankChar c = false) (hlast : s.toList = init ++ [d])
    (hd : isBlankChar d = false) : nonBlank? s = some s := by
  have hblank : ¬isBlank s = true := by
    rw [isBlank, hfirst, List.all_cons, hc, Bool.false_and]
    exact Bool.false_ne_true
  have htrim : trimChars s.toList = s.toList := by
    rw [hfirst]
    exact trimChars_of_ends hc hd (hfirst.symm.trans hlast)
  rw [nonBlank?, if_neg hblank, trim, htrim, String.ofList_toList]

/-- Nothing is lost in front of a text that is kept, if it starts with no blank. -/
theorem nonBlank?_append {s t : String} {c : Char} {cs : List Char} (hfirst : s.toList = c :: cs)
    (hc : isBlankChar c = false) (ht : nonBlank? t = some t) :
    nonBlank? (s ++ t) = some (s ++ t) := by
  obtain ⟨-, init, d, hlast, hd⟩ := exists_ends ht
  have hstart : (s ++ t).toList = c :: (cs ++ t.toList) := by
    rw [String.toList_append, hfirst, List.cons_append]
  have hend : (s ++ t).toList = (s.toList ++ init) ++ [d] := by
    rw [String.toList_append, hlast, List.append_assoc]
  exact nonBlank?_of_ends hstart hc hend hd

/-- Nothing is lost between two texts that are kept. -/
theorem nonBlank?_between {s t : String} (hs : nonBlank? s = some s) (between : String)
    (ht : nonBlank? t = some t) : nonBlank? (s ++ between ++ t) = some (s ++ between ++ t) := by
  obtain ⟨⟨c, cs, hfirst, hc⟩, -⟩ := exists_ends hs
  have hstart : (s ++ between).toList = c :: (cs ++ between.toList) := by
    rw [String.toList_append, hfirst, List.cons_append]
  exact nonBlank?_append hstart hc ht

end TaskWatch.Text
