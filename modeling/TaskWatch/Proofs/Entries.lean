import Mathlib.Data.List.Nodup
import Mathlib.Data.List.Perm.Subperm

/-!
# Lists of entries by key

Maps are kept as lists of entries with different keys. `find?_key` says what is found under a key.
Lists that only grow are referred to by position; `getElem?_inj_of_countP` tells positions apart by
what is counted only once.
-/

namespace TaskWatch

variable {α : Type} {entries : List (String × α)} {key : String}

/-- Under different keys, an entry is what is found under its key. -/
theorem find?_key (hk : (entries.map (·.1)).Nodup) {a : α} :
    entries.find? (·.1 == key) = some (key, a) ↔ (key, a) ∈ entries := by
  induction entries with
  | nil => simp
  | cons entry entries ih =>
    obtain ⟨hne, hk⟩ := List.nodup_cons.1 (List.map_cons ▸ hk)
    by_cases he : entry.1 = key
    · have hnot : (key, a) ∉ entries := fun hm => hne (List.mem_map.2 ⟨_, hm, he.symm⟩)
      rw [List.find?_cons_of_pos (by simpa using he)]
      simp [hnot, eq_comm]
    · rw [List.find?_cons_of_neg (by simpa using he), ih hk]
      simp only [List.mem_cons]
      refine ⟨.inr, fun h => h.resolve_left fun e => he (e ▸ rfl)⟩

theorem find?_key_eq_none : entries.find? (·.1 == key) = none ↔ key ∉ entries.map (·.1) := by
  rw [List.find?_eq_none]
  constructor
  · intro h hm
    obtain ⟨entry, he, hkey⟩ := List.mem_map.1 hm
    exact h entry he (by simpa using hkey)
  · intro h entry he hkey
    exact h (List.mem_map.2 ⟨entry, he, by simpa using hkey⟩)

/-- What is found under a key when the entries of another are taken out. -/
theorem find?_filter_key (entries : List (String × α)) (key other : String) :
    (entries.filter (·.1 != other)).find? (·.1 == key) =
      if key = other then none else entries.find? (·.1 == key) := by
  split
  · next e =>
    rw [find?_key_eq_none]
    intro hm
    obtain ⟨entry, he, hkey⟩ := List.mem_map.1 hm
    exact absurd (hkey.trans e) (by simpa using (List.mem_filter.1 he).2)
  · next hne =>
    induction entries with
    | nil => rfl
    | cons entry entries ih =>
      by_cases ho : entry.1 = other
      · have hkey : entry.1 ≠ key := fun e => hne (e.symm.trans ho)
        rw [List.filter_cons_of_neg (by simpa using ho), ih,
          List.find?_cons_of_neg (by simpa using hkey)]
      · rw [List.filter_cons_of_pos (by simpa using ho)]
        by_cases hkey : entry.1 = key
        · rw [List.find?_cons_of_pos (by simpa using hkey),
            List.find?_cons_of_pos (by simpa using hkey)]
        · rw [List.find?_cons_of_neg (by simpa using hkey),
            List.find?_cons_of_neg (by simpa using hkey), ih]

/-- What is counted at most once stands at one position only. -/
theorem getElem?_inj_of_countP {β : Type} {l : List β} {p : β → Bool} (h : l.countP p ≤ 1)
    {j k : Nat} {a b : β} (hj : l[j]? = some a) (hk : l[k]? = some b) (ha : p a = true)
    (hb : p b = true) : j = k := by
  have positive : ∀ {l : List β} {k : Nat} {b : β}, l[k]? = some b → p b = true →
      0 < l.countP p := fun hk hb =>
    List.countP_pos_iff.2 ⟨_, List.mem_of_getElem? hk, hb⟩
  induction l generalizing j k with
  | nil => simp at hj
  | cons x l ih =>
    rw [List.countP_cons] at h
    match j, k with
    | 0, 0 => rfl
    | 0, k + 1 =>
      obtain rfl : x = a := by simpa using hj
      have := positive (List.getElem?_cons_succ ▸ hk) hb
      rw [if_pos ha] at h
      omega
    | j + 1, 0 =>
      obtain rfl : x = b := by simpa using hk
      have := positive (List.getElem?_cons_succ ▸ hj) ha
      rw [if_pos hb] at h
      omega
    | j + 1, k + 1 =>
      rw [List.getElem?_cons_succ] at hj hk
      rw [ih (by omega) hj hk]

/-- What is elsewhere in a list stays when one place of it changes. -/
theorem mem_set_of_ne {β : Type} {l : List β} {k : Nat} {a b x : β} (hk : l[k]? = some a)
    (hb : b ∈ l) (hne : b ≠ a) : b ∈ l.set k x := by
  obtain ⟨j, hj⟩ := List.mem_iff_getElem?.1 hb
  have hkj : k ≠ j := fun e => hne (by rw [e, hj] at hk; exact Option.some.inj hk)
  exact List.mem_of_getElem? ((List.getElem?_set_ne hkj).trans hj)

/-- The new entry stands in the list. -/
theorem mem_set_self {β : Type} {l : List β} {k : Nat} {a x : β} (hk : l[k]? = some a) :
    x ∈ l.set k x :=
  List.mem_of_getElem? (List.getElem?_set_self (List.getElem?_eq_some_iff.1 hk).1)

/-- What is read off a list does not notice a change that keeps what is read. -/
theorem map_set_of_eq {β γ : Type} {l : List β} {k : Nat} {a x : β} {f : β → γ}
    (hk : l[k]? = some a) (he : f x = f a) : (l.set k x).map f = l.map f := by
  have hlt := (List.getElem?_eq_some_iff.1 hk).1
  refine List.ext_getElem? fun j => ?_
  rw [List.getElem?_map, List.getElem?_map]
  by_cases e : k = j
  · subst e
    rw [List.getElem?_set_self hlt, hk, Option.map_some, Option.map_some, he]
  · rw [List.getElem?_set_ne e]

/-- What stands at one position at most is counted once at most. -/
theorem countP_le_one {β : Type} {l : List β} {p : β → Bool}
    (h : ∀ (j k : Nat) a b, l[j]? = some a → l[k]? = some b → p a = true → p b = true → j = k) :
    l.countP p ≤ 1 := by
  induction l with
  | nil => exact Nat.zero_le 1
  | cons x l ih =>
    have hrest : l.countP p ≤ 1 := ih fun j k a b hj hk ha hb => Nat.succ.inj <|
      h (j + 1) (k + 1) a b (by simpa using hj) (by simpa using hk) ha hb
    rw [List.countP_cons]
    split
    · next hx =>
      have hnone : l.countP p = 0 := List.countP_eq_zero.2 fun a ha hpa => by
        obtain ⟨k, hk⟩ := List.mem_iff_getElem?.1 ha
        have := h 0 (k + 1) x a rfl (by simpa using hk) hx hpa
        omega
      omega
    · exact hrest

/-- What is moved in one place leaves the rest of a list alone. -/
theorem subperm_append_middle {β : Type} {a a' c c' : List β} (before after : List β)
    (h : (a' ++ c').Subperm (a ++ c)) :
    (a' ++ (before ++ (c' ++ after))).Subperm (a ++ (before ++ (c ++ after))) := by
  have swap : ∀ a c : List β, (a ++ (before ++ (c ++ after))).Perm ((a ++ c) ++ (before ++ after)) := by
    intro a c
    rw [List.append_assoc]
    refine List.Perm.append_left a ?_
    rw [← List.append_assoc, ← List.append_assoc]
    exact List.perm_append_comm.append_right after
  exact ((swap a' c').subperm.trans ((List.subperm_append_right _).2 h)).trans (swap a c).symm.subperm

end TaskWatch
