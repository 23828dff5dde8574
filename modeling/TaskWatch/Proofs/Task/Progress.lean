import TaskWatch.Proofs.Instant
import TaskWatch.Proofs.Text.NonBlank
import TaskWatch.Task.Basic

/-!
# Lines of progress

The line that shows a progress entry is kept as it is when lines are trimmed and blank ones are left
out (`Progress.nonBlank?_displayLine`): its status and its text are trimmed before they are put
together, and a time has no blanks at its ends, whatever its year.
-/

namespace TaskWatch

theorem Instant.nonBlank?_secondText (t : Instant) :
    Text.nonBlank? t.secondText = some t.secondText := by
  obtain ⟨c, cs, hyear, hblank, -⟩ := exists_yearChars_eq_cons t.year
  rw [year] at hyear
  have hlast : t.secondText.toList = secondChars t ++ ['Z'] := String.toList_ofList
  have hfirst := hlast
  simp only [secondChars, hyear, List.cons_append] at hfirst
  exact Text.nonBlank?_of_ends hfirst hblank hlast (by decide)

/-- A line made of a status and a text that were trimmed needs no trimming. -/
theorem nonBlank?_statusLine {status text : Option String} {line : String}
    (hstatus : ∀ s ∈ status, Text.nonBlank? s = some s)
    (htext : ∀ s ∈ text, Text.nonBlank? s = some s) (h : statusLine status text = some line) :
    Text.nonBlank? line = some line := by
  match status, text with
  | none, none => cases h
  | none, some text =>
    obtain rfl := Option.some.inj h
    exact htext text rfl
  | some status, none =>
    obtain rfl := Option.some.inj h
    exact hstatus status rfl
  | some status, some text =>
    obtain rfl := Option.some.inj h
    exact Text.nonBlank?_between (hstatus status rfl) " — " (htext text rfl)

/-- An entry with a text or a status has a line that shows it, whatever its time. -/
theorem Progress.exists_displayLine {p : Progress}
    (h : Text.isBlank p.text = false ∨ Text.isBlank p.status = false) :
    ∃ line, p.displayLine = some line := by
  rw [displayLine]
  obtain htext | hstatus := h
  · rw [Text.nonBlank?_of_isBlank htext]
    cases Text.nonBlank? p.status <;> exact ⟨_, rfl⟩
  · rw [Text.nonBlank?_of_isBlank hstatus]
    cases Text.nonBlank? p.text <;> exact ⟨_, rfl⟩

/-- The line that shows an entry needs no trimming. -/
theorem Progress.nonBlank?_displayLine {p : Progress} {line : String}
    (h : p.displayLine = some line) : Text.nonBlank? line = some line := by
  unfold displayLine at h
  cases hshown : statusLine (Text.nonBlank? p.status) (Text.nonBlank? p.text) with
  | some shown =>
    rw [hshown] at h
    obtain rfl := Option.some.inj h
    exact nonBlank?_statusLine (fun _ hs => Text.nonBlank?_of_eq_some hs)
      (fun _ hs => Text.nonBlank?_of_eq_some hs) hshown
  | none =>
    rw [hshown] at h
    change (if p.timestamp.isZero then none else some p.timestamp.secondText) = some line at h
    split at h
    · cases h
    · obtain rfl := Option.some.inj h
      exact p.timestamp.nonBlank?_secondText

end TaskWatch
