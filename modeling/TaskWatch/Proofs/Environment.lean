import Mathlib.Data.List.TakeWhile
import TaskWatch.Environment

/-!
# References are replaced once

What is written `referenceTo name` is seen as a reference (`reference?_referenceTo`), and nothing
else is (`eq_referenceTo`). A dollar sign stands only at the start of a reference, so nothing in
front of a reference becomes one together with it (`reference?_append_dollar`).

So the expansion of a text falls apart around each reference in it, and a text without references is
kept (`Substitutes`). These two laws leave nothing open: expansion obeys them, and it is the only
function that does (`expand_substitutes_once`).
-/

namespace TaskWatch.Environment

/-- An ASCII letter or underscore, and ASCII letters, digits and underscores after it. -/
def IsName (name : String) : Prop :=
  ∃ first rest, name.toList = first :: rest ∧ (first.isAlpha = true ∨ first = '_') ∧
    ∀ c ∈ rest, c.isAlphanum = true ∨ c = '_'

/-- The reference to a variable. -/
def referenceTo (name : String) : String := "$\x7b" ++ name ++ "\x7d"

/-- A reference stands somewhere in the text. -/
def HasReference (s : String) : Prop :=
  ∃ before name after, IsName name ∧ s = before ++ referenceTo name ++ after

theorem isNameStart_iff {c : Char} : isNameStart c = true ↔ c.isAlpha = true ∨ c = '_' := by
  rw [isNameStart, Bool.or_eq_true, beq_iff_eq]

theorem isNameChar_iff {c : Char} : isNameChar c = true ↔ c.isAlphanum = true ∨ c = '_' := by
  rw [isNameChar, Bool.or_eq_true, beq_iff_eq]

theorem toList_referenceTo (name : String) :
    (referenceTo name).toList = '$' :: '{' :: (name.toList ++ ['}']) := by
  rw [referenceTo, String.toList_append, String.toList_append]
  rfl

/-! ## Where the scanner sees a reference -/

theorem reference?_referenceTo {name : String} (hname : IsName name) (rest : List Char) :
    reference? ((referenceTo name).toList ++ rest) = some (name, rest) := by
  obtain ⟨first, cs, hchars, hfirst, hcs⟩ := hname
  have hpos : ∀ c ∈ cs, isNameChar c = true := fun c hc => isNameChar_iff.2 (hcs c hc)
  have hdrop : (cs ++ '}' :: rest).dropWhile isNameChar = '}' :: rest := by
    rw [List.dropWhile_append_of_pos hpos]
    exact List.dropWhile_cons_of_neg (by decide)
  have htake : (cs ++ '}' :: rest).takeWhile isNameChar = cs := by
    rw [List.takeWhile_append_of_pos hpos, List.takeWhile_cons_of_neg (by decide), List.append_nil]
  have hshape : (referenceTo name).toList ++ rest = '$' :: '{' :: first :: (cs ++ '}' :: rest) := by
    rw [toList_referenceTo, hchars]
    simp only [List.cons_append, List.append_assoc, List.nil_append]
  rw [hshape, reference?, if_pos (isNameStart_iff.2 hfirst), hdrop, htake, ← hchars,
    String.ofList_toList]
  rfl

theorem eq_referenceTo {cs rest : List Char} {name : String}
    (h : reference? cs = some (name, rest)) :
    IsName name ∧ cs = (referenceTo name).toList ++ rest := by
  unfold reference? at h
  split at h
  · next first cs =>
    split at h
    · next hfirst =>
      split at h
      · next tail hdrop =>
        obtain ⟨rfl, rfl⟩ := Prod.mk.inj (Option.some.inj h)
        refine ⟨⟨first, cs.takeWhile isNameChar, String.toList_ofList, isNameStart_iff.1 hfirst,
          fun c hc => isNameChar_iff.1 (List.mem_takeWhile_imp hc)⟩, ?_⟩
        have hsplit : cs = cs.takeWhile isNameChar ++ '}' :: tail := by
          rw [← hdrop, List.takeWhile_append_dropWhile]
        rw [toList_referenceTo, String.toList_ofList]
        simp only [List.cons_append, List.append_assoc, List.nil_append]
        rw [← hsplit]
      · cases h
    · cases h
  · cases h

theorem reference?_eq_none_iff {cs : List Char} :
    reference? cs = none ↔ ∀ name rest, IsName name → cs ≠ (referenceTo name).toList ++ rest := by
  constructor
  · rintro h name rest hname rfl
    rw [reference?_referenceTo hname] at h
    cases h
  · intro h
    cases hseen : reference? cs with
    | none => rfl
    | some found =>
      obtain ⟨hname, heq⟩ := eq_referenceTo hseen
      exact absurd heq (h found.1 found.2 hname)

/-- There is no dollar sign in a reference but the first character. -/
theorem dollar_notMem {name : String} (hname : IsName name) :
    '$' ∉ '{' :: (name.toList ++ ['}']) := by
  obtain ⟨first, cs, hchars, hfirst, hcs⟩ := hname
  rw [hchars]
  intro hmem
  simp only [List.mem_cons, List.mem_append, List.cons_append, List.not_mem_nil, or_false] at hmem
  rcases hmem with h | h | h | h
  · exact absurd h (by decide)
  · exact absurd (h ▸ hfirst) (by decide)
  · exact absurd (hcs _ h) (by decide)
  · exact absurd h (by decide)

/-- What is no reference does not become one by a dollar sign that follows, not even when it is the
start of a reference. -/
theorem reference?_append_dollar {c : Char} {cs : List Char} (h : reference? (c :: cs) = none)
    (after : List Char) : reference? (c :: cs ++ '$' :: after) = none := by
  rw [reference?_eq_none_iff] at h ⊢
  intro name rest hname heq
  rcases List.append_eq_append_iff.1 heq with ⟨more, href, hmore⟩ | ⟨more, hcs, -⟩
  · cases more with
    | nil => exact absurd (by rw [href, List.append_nil, List.append_nil]) (h name [] hname)
    | cons d ds =>
      -- Such a reference would run over the dollar sign.
      obtain ⟨rfl, -⟩ := List.cons.inj hmore
      rw [toList_referenceTo, List.cons_append] at href
      have htail := (List.cons.inj href).2
      refine absurd ?_ (dollar_notMem hname)
      rw [htail]
      exact List.mem_append_right _ List.mem_cons_self
  · exact absurd hcs (h name more hname)

/-! ## Expansion -/

variable (env : Environment)

theorem expandChars_nil : expandChars env [] = [] := by
  rw [expandChars]
  rfl

theorem expandChars_of_reference {cs rest : List Char} {name : String}
    (h : reference? cs = some (name, rest)) :
    expandChars env cs = ((env.get? name).getD "").toList ++ expandChars env rest := by
  rw [expandChars]
  split
  · next hseen =>
    rw [h] at hseen
    obtain ⟨rfl, rfl⟩ := Prod.mk.inj (Option.some.inj hseen)
    rfl
  · next hseen =>
    rw [h] at hseen
    cases hseen

theorem expandChars_cons {c : Char} {cs : List Char} (h : reference? (c :: cs) = none) :
    expandChars env (c :: cs) = c :: expandChars env cs := by
  rw [expandChars]
  split
  · next hseen =>
    rw [h] at hseen
    cases hseen
  · rfl

/-- The expansion of a text falls apart around a reference in it. -/
theorem expandChars_around {name : String} (hname : IsName name) (before after : List Char) :
    expandChars env (before ++ ((referenceTo name).toList ++ after)) =
      expandChars env before ++ (((env.get? name).getD "").toList ++ expandChars env after) := by
  -- The scan of the whole text takes the same steps as that of what stands before the reference.
  fun_induction expandChars env before with
  | case1 cs earlier rest hseen _ ih =>
    obtain ⟨hearlier, rfl⟩ := eq_referenceTo hseen
    rw [List.append_assoc, expandChars_of_reference env (reference?_referenceTo hearlier _), ih,
      List.append_assoc]
  | case2 hseen =>
    exact expandChars_of_reference env (reference?_referenceTo hname after)
  | case3 c rest hseen ih =>
    have hnone : reference? (c :: (rest ++ ((referenceTo name).toList ++ after))) = none := by
      rw [toList_referenceTo]
      exact reference?_append_dollar hseen _
    rw [List.cons_append, expandChars_cons env hnone, ih, List.cons_append]

theorem expandChars_of_plain {cs : List Char}
    (h : ∀ before name after, IsName name → cs ≠ before ++ ((referenceTo name).toList ++ after)) :
    expandChars env cs = cs := by
  induction cs with
  | nil => exact expandChars_nil env
  | cons c cs ih =>
    have hnone : reference? (c :: cs) = none :=
      reference?_eq_none_iff.2 fun name rest => h [] name rest
    rw [expandChars_cons env hnone, ih]
    intro before name after hname heq
    exact h (c :: before) name after hname (by rw [heq, List.cons_append])

/-- The laws of a substitution of values for references. -/
structure Substitutes (f : String → String) : Prop where
  /-- A reference gives way to its value wherever it stands; the value is not looked at again, and
  neither side is read together with it. -/
  reference : ∀ before name after, IsName name →
    f (before ++ referenceTo name ++ after) = f before ++ (env.get? name).getD "" ++ f after
  plain : ∀ s, ¬HasReference s → f s = s

theorem substitutes_expand : Substitutes env env.expand where
  reference before name after hname := by
    apply String.toList_injective
    simp only [expand, String.toList_append, String.toList_ofList, List.append_assoc]
    exact expandChars_around env hname before.toList after.toList
  plain s hplain := by
    have hchars : expandChars env s.toList = s.toList := by
      apply expandChars_of_plain
      intro before name after hname heq
      refine hplain ⟨String.ofList before, name, String.ofList after, hname, ?_⟩
      apply String.toList_injective
      simp only [heq, String.toList_append, String.toList_ofList, List.append_assoc]
    rw [expand, hchars, String.ofList_toList]

theorem length_around (before name after : String) :
    before.length < (before ++ referenceTo name ++ after).length ∧
      after.length < (before ++ referenceTo name ++ after).length := by
  simp only [← String.length_toList, String.toList_append, toList_referenceTo, List.length_append,
    List.length_cons]
  omega

/-- The laws settle every text, by induction on its length. -/
theorem Substitutes.eq_expand {env : Environment} {f : String → String} (hf : Substitutes env f)
    (s : String) : f s = env.expand s := by
  have hexpand := substitutes_expand env
  by_cases hs : HasReference s
  · obtain ⟨before, name, after, hname, rfl⟩ := hs
    have hlength := length_around before name after
    rw [hf.reference _ _ _ hname, hexpand.reference _ _ _ hname, hf.eq_expand before,
      hf.eq_expand after]
  · rw [hf.plain s hs, hexpand.plain s hs]
termination_by s.length

/-- Expansion puts values in the place of references in one pass, and is the only function that
does. -/
theorem expand_substitutes_once :
    Substitutes env env.expand ∧ ∀ f, Substitutes env f → f = env.expand :=
  ⟨substitutes_expand env, fun _ hf => funext hf.eq_expand⟩

/-- What is not quite a reference is kept, also right in front of a reference, and a reference in a
value is only text. -/
example :
    expand ⟨[("A", "$\x7bB\x7d"), ("B", "x")]⟩
        "$$\x7bA\x7d$\x7b$\x7bB\x7d$\x7bA-B\x7d$\x7b1A\x7d$\x7b\x7d$\x7bA" =
      "$$\x7bB\x7d$\x7bx$\x7bA-B\x7d$\x7b1A\x7d$\x7b\x7d$\x7bA" := by
  decide +kernel

end TaskWatch.Environment
