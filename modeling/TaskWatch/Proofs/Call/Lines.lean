import TaskWatch.Proofs.Call.Effects

/-!
# The lines of a call

A call keeps its last lines. What it keeps is the end of a *log* that keeps all of them
(`LineEdit.log`, `CallSession.logged`): whether the log is empty and what its last line is can be seen
from its end, so that no edit is lost on the lines that were dropped.

* `CallState.Ends.edit`: what one edit does to the lines and to the log;
* `CallSession.lines_exact`: the lines after any actions on a call.
-/

namespace TaskWatch

/-! ## The log -/

/-- The log after lines were taken over: those that are not blank, unless all of them are. -/
def replacedLog (log lines : List String) : List String :=
  let kept := lines.filterMap Text.nonBlank?
  if kept.isEmpty then log else kept

/-- The log after an edit. -/
def LineEdit.log (log : List String) : LineEdit → List String
  | .seed lines => if log.isEmpty then replacedLog log lines else log
  | .replace lines => replacedLog log lines
  | .append line =>
    match Text.nonBlank? line with
    | none => log
    | some line => if log.getLast? = some line then log else log ++ [line]

/-- The last lines of a log. -/
def logEnd (log : List String) (count : Nat) : List String :=
  log.drop (log.length - count)

theorem length_logEnd (log : List String) (count : Nat) : (logEnd log count).length ≤ count := by
  rw [logEnd, List.length_drop]
  omega

theorem getLast?_logEnd (log : List String) {count : Nat} (hcount : 1 ≤ count) :
    (logEnd log count).getLast? = log.getLast? := by
  rw [logEnd, List.getLast?_drop]
  split
  · next hle =>
    have hnil : log = [] := List.eq_nil_of_length_eq_zero (by omega)
    rw [hnil]
    rfl
  · rfl

theorem logEnd_eq_nil {log : List String} {count : Nat} (hcount : 1 ≤ count) :
    logEnd log count = [] ↔ log = [] := by
  rw [← List.getLast?_eq_none_iff, getLast?_logEnd log hcount, List.getLast?_eq_none_iff]

/-- The end of a longer log is found from the end alone. -/
theorem logEnd_concat (log : List String) (line : String) (count : Nat) :
    logEnd (logEnd log count ++ [line]) count = logEnd (log ++ [line]) count := by
  by_cases hle : log.length ≤ count
  · have hall : logEnd log count = log := by
      rw [logEnd, Nat.sub_eq_zero_of_le hle, List.drop_zero]
    rw [hall]
  · have hlength : (logEnd log count).length = count := by
      rw [logEnd, List.length_drop]
      omega
    have hdrop : (log ++ [line]).drop (log.length - count) = logEnd log count ++ [line] :=
      List.drop_append_of_le_length (by omega)
    have hleft : (logEnd log count ++ [line]).length - count = 1 := by
      rw [List.length_append, List.length_singleton]
      omega
    have hright : (log ++ [line]).length - count = log.length - count + 1 := by
      rw [List.length_append, List.length_singleton]
      omega
    have hend : logEnd (log ++ [line]) count = (logEnd log count ++ [line]).drop 1 := by
      rw [← hdrop, List.drop_drop, ← hright]
      rfl
    rw [hend, logEnd, hleft]

/-- Every line of a log was trimmed, and none is blank. -/
def Trimmed (log : List String) : Prop :=
  ∀ line ∈ log, Text.nonBlank? line = some line

theorem Trimmed.replacedLog {log : List String} (h : Trimmed log) (lines : List String) :
    Trimmed (replacedLog log lines) := by
  unfold TaskWatch.replacedLog
  dsimp only
  split
  · exact h
  · intro line hline
    obtain ⟨text, -, htext⟩ := List.mem_filterMap.1 hline
    exact Text.nonBlank?_of_eq_some htext

theorem Trimmed.log {log : List String} (h : Trimmed log) (e : LineEdit) : Trimmed (e.log log) := by
  unfold LineEdit.log
  cases e with
  | seed lines =>
    dsimp only
    split
    · exact h.replacedLog lines
    · exact h
  | replace lines => exact h.replacedLog lines
  | append line =>
    dsimp only
    cases htext : Text.nonBlank? line with
    | none => exact h
    | some text =>
      dsimp only
      split
      · exact h
      · intro line hline
        obtain hline | hline := List.mem_append.1 hline
        · exact h line hline
        · obtain rfl := List.mem_singleton.1 hline
          exact Text.nonBlank?_of_eq_some htext

namespace CallState

/-! ## The lines and the log -/

/-- The lines of a call are the end of a log. -/
structure Ends (log : List String) (s : CallState) : Prop where
  capacity : 1 ≤ s.capacity
  lines : s.lines = logEnd log s.capacity
  trimmed : Trimmed log

namespace Ends

variable {log : List String} {s : CallState}

theorem new (callId : String) (capacity : Nat) : Ends [] (.new callId capacity) :=
  ⟨Nat.le_max_right capacity 1, List.drop_nil.symm, nofun⟩

theorem of_lines {s' : CallState} (hlines : s'.lines = s.lines)
    (hcapacity : s'.capacity = s.capacity) (h : Ends log s) : Ends log s' where
  capacity := hcapacity ▸ h.capacity
  lines := by rw [hlines, hcapacity, h.lines]
  trimmed := h.trimmed

theorem isEmpty (h : Ends log s) : s.lines.isEmpty = log.isEmpty := by
  rw [Bool.eq_iff_iff, List.isEmpty_iff, List.isEmpty_iff, h.lines, logEnd_eq_nil h.capacity]

theorem getLast? (h : Ends log s) : s.lines.getLast? = log.getLast? := by
  rw [h.lines, getLast?_logEnd log h.capacity]

theorem replaceLines (h : Ends log s) (lines : List String) :
    (s.replaceLines lines).lines = logEnd (replacedLog log lines) s.capacity := by
  have hempty : (Metadata.normalizeLines lines s.capacity).isEmpty =
      (lines.filterMap Text.nonBlank?).isEmpty := by
    rw [Bool.eq_iff_iff, List.isEmpty_iff, List.isEmpty_iff]
    exact logEnd_eq_nil h.capacity
  unfold CallState.replaceLines replacedLog
  dsimp only
  rw [hempty]
  split
  · exact h.lines
  · rfl

/-- What an addition does, and what it says it did. -/
theorem appendLine (h : Ends log s) (line : String) :
    (s.appendLine line).2.lines = logEnd ((LineEdit.append line).log log) s.capacity ∧
      ((s.appendLine line).1 = true ↔ (LineEdit.append line).log log ≠ log) := by
  unfold CallState.appendLine LineEdit.log
  dsimp only
  cases Text.nonBlank? line with
  | none => exact ⟨h.lines, iff_of_false nofun fun hne => hne rfl⟩
  | some text =>
    dsimp only
    rw [h.getLast?]
    split
    · exact ⟨h.lines, iff_of_false nofun fun hne => hne rfl⟩
    · refine ⟨?_, iff_of_true rfl ?_⟩
      · show logEnd (s.lines ++ [text]) s.capacity = _
        rw [h.lines, logEnd_concat]
      · intro heq
        have hlength := congrArg List.length heq
        rw [List.length_append, List.length_singleton] at hlength
        omega

/-- What an edit does to the lines and to the log. -/
theorem edit (h : Ends log s) (e : LineEdit) : Ends (e.log log) (s.edit e) := by
  have hcapacity : (s.edit e).capacity = s.capacity := by rw [edit_eq]
  refine ⟨hcapacity ▸ h.capacity, ?_, h.trimmed.log e⟩
  rw [hcapacity]
  cases e with
  | seed lines =>
    unfold CallState.edit CallState.ensureInitial LineEdit.log
    dsimp only
    rw [h.isEmpty]
    split
    · exact h.replaceLines lines
    · exact h.lines
  | replace lines => exact h.replaceLines lines
  | append line => exact (h.appendLine line).1

theorem edits (h : Ends log s) (edits : List LineEdit) :
    Ends (edits.foldl LineEdit.log log) (edits.foldl CallState.edit s) := by
  induction edits generalizing log s with
  | nil => exact h
  | cons e rest ih => exact ih (h.edit e)

end Ends

end CallState

namespace CallSession

open CallState

/-- The log after some actions. -/
def logged (actions : List Action) : List String :=
  (actions.flatMap Action.edits).foldl LineEdit.log []

theorem logged_append (before after : List Action) :
    logged (before ++ after) = (after.flatMap Action.edits).foldl LineEdit.log (logged before) := by
  rw [logged, List.flatMap_append, List.foldl_append]
  rfl

/-- The lines of a call over some actions, when so many are kept. -/
structure Lined (s : CallSession) (count : Nat) (actions : List Action) : Prop where
  lines : (s.run actions).call.lines = logEnd (logged actions) count
  length : (s.run actions).call.lines.length ≤ count
  trimmed : ∀ line ∈ (s.run actions).call.lines,
    Text.isBlank line = false ∧ Text.trim line = line
  /-- An addition is answered with whether the log grew. -/
  answer : ∀ before line after, actions = before ++ .appendLine line :: after →
    ∃ added, ((s.run before).act (.appendLine line)).1 = .flag added ∧
      (added = true ↔ logged (before ++ [.appendLine line]) ≠ logged before)
  /-- Lines that were dropped are not missed: the two things that an edit looks at are those of the
  log. -/
  last : (s.run actions).call.lines.getLast? = (logged actions).getLast?
  empty : (s.run actions).call.lines = [] ↔ logged actions = []

theorem ends_run {s : CallSession} {log : List String} (h : Ends log s.call)
    (actions : List Action) :
    Ends ((actions.flatMap Action.edits).foldl LineEdit.log log) (s.run actions).call := by
  induction actions generalizing s log with
  | nil => exact h
  | cons action rest ih =>
    have hlines : (s.act action).2.call.lines = (action.edits.foldl edit s.call).lines :=
      congrArg (·.2.2.2) (known_act s action)
    have hcapacity : (s.act action).2.call.capacity = (action.edits.foldl edit s.call).capacity := by
      rw [edits_eq]
      exact (act_outcome s action).precedes.capacity
    have hrest := ih (.of_lines hlines hcapacity (h.edits action.edits))
    rw [List.flatMap_cons, List.foldl_append]
    exact hrest

/-- The lines of a call are the end of what a log of everything would hold, however few are kept. -/
theorem lines_exact (callId : String) (capacity : Nat) (tokens : Tokens) (actions : List Action) :
    Lined (.new callId capacity tokens) (max capacity 1) actions := by
  have hcapacity (actions : List Action) :
      (run (.new callId capacity tokens) actions).call.capacity = max capacity 1 :=
    (precedes_run (.new callId capacity tokens) actions).capacity
  have hends (actions : List Action) :
      Ends (logged actions) (run (.new callId capacity tokens) actions).call :=
    ends_run (s := .new callId capacity tokens) (.new callId capacity) actions
  have hlines : (run (.new callId capacity tokens) actions).call.lines =
      logEnd (logged actions) (max capacity 1) := by
    rw [(hends actions).lines, hcapacity]
  refine ⟨hlines, ?_, fun line hline => ?_, fun before line after _ => ?_, (hends actions).getLast?, ?_⟩
  · rw [hlines]
    exact length_logEnd _ _
  · rw [hlines] at hline
    have hkept := (hends actions).trimmed line (List.mem_of_mem_drop hline)
    refine ⟨Text.isBlank_of_nonBlank? hkept, ?_⟩
    unfold Text.nonBlank? at hkept
    split at hkept
    · cases hkept
    · exact Option.some.inj hkept
  · refine ⟨_, rfl, ?_⟩
    rw [logged_append]
    exact ((hends before).appendLine line).2
  · rw [hlines]
    exact logEnd_eq_nil (Nat.le_max_right capacity 1)

end CallSession

end TaskWatch
