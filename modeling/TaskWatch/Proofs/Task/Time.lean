import TaskWatch.Proofs.Instant
import TaskWatch.Task.Basic

/-!
# Times are read back

A time field holds the text of an instant, and an instant is read back from its text exactly when it
is on the clock and its year has four digits (`Task.time_kept`). Whatever was read is on the clock:
an offset moves an instant by whole minutes, so a leap second stays at the end of one. So a time that
was read from any text, with any offset and any number of decimal places, lasts when it is written,
unless the offset took it out of the years that can be written.
-/

namespace TaskWatch

namespace Task

theorem onClock_of_readTime {field : TimeField} {s : String} {t : Instant}
    (h : readTime field s = .ok t) : t.OnClock := by
  rw [readTime] at h
  split at h
  · next hread =>
    cases h
    exact Instant.onClock_of_ofText? hread
  · cases h

theorem readTime_text_iff {field : TimeField} {t : Instant} (hclock : t.OnClock) :
    readTime field t.text = .ok t ↔ t.InYears := by
  rw [readTime, Instant.ofText?_text hclock]
  by_cases hyears : t.InYears
  · rw [if_pos hyears]
    exact iff_of_true rfl hyears
  · rw [if_neg hyears]
    exact iff_of_false (fun h => nomatch h) hyears

theorem readTime_of_isBlank {s : String} (h : Text.isBlank s = true) (field : TimeField) :
    readTime field s = .ok .zero := by
  rw [readTime, Instant.ofText?, if_pos h]

/-- What becomes of an instant that is written into a time field and read from it. -/
structure TimeKept (field : TimeField) (t : Instant) : Prop where
  written : readTime field t.text = .ok t ↔ t.OnClock ∧ t.InYears
  /-- The zero instant is written as the empty text, and no other one is. -/
  empty : t.text = "" ↔ t = .zero
  /-- A blank text is read as the zero instant. -/
  blank : ∀ s, Text.isBlank s = true → (readTime field s = .ok t ↔ t = .zero)
  /-- However the instant was written when it was read. -/
  read : ∀ s, readTime field s = .ok t → (readTime field t.text = .ok t ↔ t.InYears)
  /-- The years of four digits in seconds. -/
  years : t.InYears ↔ -62167219200 ≤ t.seconds ∧ t.seconds < 253402300800

/-- Every instant of the years 0 to 9999, also one in a leap second, is read back from its text. -/
theorem time_kept (field : TimeField) (t : Instant) : TimeKept field t where
  written := by
    constructor
    · intro h
      have hclock := onClock_of_readTime h
      exact ⟨hclock, (readTime_text_iff hclock).1 h⟩
    · rintro ⟨hclock, hyears⟩
      exact (readTime_text_iff hclock).2 hyears
  empty := by
    constructor
    · intro h
      have hblank := t.isBlank_text
      rw [h] at hblank
      exact of_decide_eq_true hblank.symm
    · rintro rfl
      rfl
  blank s hs := by
    rw [readTime_of_isBlank hs, Except.ok.injEq]
    exact eq_comm
  read s h := readTime_text_iff (onClock_of_readTime h)
  years := Instant.inYears_iff

/-- A leap second before the Unix epoch, read in small letters with an offset into the next year, and
a tenth decimal place that does not count. -/
example :
    let t : Instant := ⟨-1, 1123456789⟩
    readTime .updatedAt " 1970-01-01t05:29:60.1234567891+05:30\n" = .ok t ∧
      t.text = "1969-12-31T23:59:60.123456789Z" ∧ readTime .updatedAt t.text = .ok t := by
  decide +kernel

end Task

end TaskWatch
