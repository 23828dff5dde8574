import TaskWatch.Proofs.Tracker.Apart
import TaskWatch.Proofs.Tracker.Watches

/-!
# Turns as moves

A turn is a step of the tracker, or a change of its broker that opens no stream. So every list of
turns, whatever its publications notice first, is a run of the tracker in which tokens that are
cancelled stay so (`LocalTracker.exists_moves`).
-/

namespace TaskWatch.LocalTracker

theorem exists_move (t : LocalTracker) (r : Turn) :
    ∃ m : Move Broker, t.tracker.Heeds m ∧ (t.turn r).tracker = t.tracker.move m := by
  obtain ⟨s, rfl⟩ | ⟨-, b, hb, hpass⟩ := t.turn_cases r
  · exact ⟨.step s, trivial, rfl⟩
  · exact ⟨.source b, hpass.grows.tokens, hb⟩

/-- Turns take no cancellation back. -/
theorem exists_moves (t : LocalTracker) (rs : List Turn) :
    ∃ run : List (Move Broker), t.tracker.Heeded run ∧ (t.turns rs).tracker = t.tracker.moves run := by
  induction rs generalizing t with
  | nil => exact ⟨[], trivial, rfl⟩
  | cons r rs ih =>
    obtain ⟨m, hm, hmove⟩ := t.exists_move r
    obtain ⟨run, hrun, hmoves⟩ := ih (t.turn r)
    rw [hmove] at hrun hmoves
    exact ⟨m :: run, ⟨hm, hrun⟩, hmoves⟩

end TaskWatch.LocalTracker
