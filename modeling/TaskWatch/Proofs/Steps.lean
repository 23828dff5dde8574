/-!
# Readers step by step

A reader is a row of steps, each of which may fail. `bind_of_eq_some` takes one step of a reader
whose answer is known, and `bind_eq_ok_iff` takes a reader that succeeded apart.
-/

namespace TaskWatch

/-- A step that gives a value leaves the rest of the steps with that value. -/
theorem bind_of_eq_some {α β : Type} {x : Option α} {f : α → Option β} {a : α} {b : Option β}
    (hx : x = some a) (hf : f a = b) : x >>= f = b := by
  rw [hx]
  exact hf

/-- A row of steps succeeds when the first one does, and the rest after it. -/
theorem bind_eq_ok_iff {ε α β : Type} {x : Except ε α} {f : α → Except ε β} {b : β} :
    x >>= f = .ok b ↔ ∃ a, x = .ok a ∧ f a = .ok b := by
  cases x <;> simp [bind, Except.bind]

theorem map_some_eq_ok_iff {ε α : Type} {x : Except ε α} {a : α} :
    x.map some = .ok (some a) ↔ x = .ok a := by
  cases x <;> simp [Except.map]

end TaskWatch
