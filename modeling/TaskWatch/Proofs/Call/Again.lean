import TaskWatch.Proofs.Call.Label

/-!
# What a call is told again

A call learns nothing from what it is told twice in a row. A label that was offered is refused from
then on (`refuses_offer`), also after other offers, as long as its tier is not the external one,
where labels are corrected (`Refuses.offer`); and an edit of the lines that is made again leaves
them as they are (`edit_again`).

So an event that comes again changes nothing (`CallSession.redelivery_harmless`). The one exception
is an event that shows the result of a task: the result is added, and then the line that closes the
watch, so neither repeats the last line when the event comes again.
-/

namespace TaskWatch

/-- The event shows the result of a task that completed: one that says more than the line that
follows it. -/
def Event.ShowsResult (event : Event) : Prop :=
  event.kind = .completed ∧ ∃ task, event.task = some task ∧
    Text.trim task.result ≠ "" ∧ Text.trim task.result ≠ "completed"

namespace CallState

variable {s s' : CallState} {o : Offer}

/-! ## Offers -/

/-- The call does not take a label that is offered. -/
def Refuses (s : CallState) (o : Offer) : Prop :=
  ∀ label, Text.nonBlank? o.candidate = some label → s.accepts label o.tier = false

namespace Refuses

theorem offer_eq (h : s.Refuses o) : s.offer o = s := by
  rw [CallState.offer, updateLabel]
  cases hlabel : Text.nonBlank? o.candidate with
  | none => rfl
  | some label =>
    dsimp only
    rw [if_neg (Bool.eq_false_iff.1 (h label hlabel))]

theorem of_named (h : s.Refuses o) (hnamed : s'.named = s.named) : s'.Refuses o := by
  have hlabel : s'.label = s.label := congrArg Prod.fst hnamed
  have htier : s'.tier = s.tier := congrArg Prod.snd hnamed
  intro label hkept
  rw [accepts, hlabel, htier]
  exact h label hkept

/-- What is refused is refused after any other offer, unless it may correct a label. -/
theorem offer (h : s.Refuses o) (htier : o.tier ≠ .external) (other : Offer) :
    (s.offer other).Refuses o := by
  intro label hlabel
  have hrises := (CallSession.offer_improves s other).1
  unfold CallState.offer updateLabel at hrises ⊢
  cases hother : Text.nonBlank? other.candidate with
  | none => exact h label hlabel
  | some kept =>
    rw [hother] at hrises
    dsimp only at hrises ⊢
    split at hrises
    · next haccepts =>
      rw [if_pos haccepts, Bool.eq_false_iff]
      intro htaken
      rcases accepts_iff.1 htaken with hrank | ⟨-, hblank | ⟨hexternal, -⟩⟩
      · -- it is above the tier that was there before, too
        have hlower : s.tier.rank < o.tier.rank := Nat.lt_of_le_of_lt hrises hrank
        have hrefused := h label hlabel
        rw [accepts_iff.2 (.inl hlower)] at hrefused
        cases hrefused
      · have hkept := Text.isBlank_of_nonBlank? (Text.nonBlank?_of_eq_some hother)
        rw [hkept] at hblank
        cases hblank
      · exact htier hexternal
    · next hrefused =>
      rw [if_neg hrefused]
      exact h label hlabel

theorem offers (h : s.Refuses o) (htier : o.tier ≠ .external) (others : List Offer) :
    (others.foldl CallState.offer s).Refuses o := by
  induction others generalizing s with
  | nil => exact h
  | cons other rest ih => exact ih (h.offer htier other)

end Refuses

/-- A label that was offered is not taken again. -/
theorem refuses_offer (s : CallState) (o : Offer) : (s.offer o).Refuses o := by
  intro label hlabel
  rw [offer, updateLabel, hlabel]
  dsimp only
  split
  · -- It stands now, in its own tier.
    have hkept := Text.isBlank_of_nonBlank? (Text.nonBlank?_of_eq_some hlabel)
    rw [Bool.eq_false_iff]
    intro haccepts
    obtain hrank | ⟨-, hblank | ⟨-, hother⟩⟩ := accepts_iff.1 haccepts
    · exact Nat.lt_irrefl _ hrank
    · rw [hkept] at hblank
      cases hblank
    · rw [Text.eqIgnoringAsciiCase_refl] at hother
      cases hother
  · next hrefused => exact eq_false_of_ne_true hrefused

/-- Labels below the external tier that were offered one after the other are all refused. -/
theorem refuses_offers {offers : List Offer} (htier : ∀ o ∈ offers, o.tier ≠ .external)
    (s : CallState) : ∀ o ∈ offers, (offers.foldl offer s).Refuses o := by
  induction offers generalizing s with
  | nil => exact fun _ ho => nomatch ho
  | cons first rest ih =>
    intro o ho
    rcases List.mem_cons.1 ho with rfl | ho
    · exact (refuses_offer s o).offers (htier o List.mem_cons_self) rest
    · exact ih (fun o ho => htier o (List.mem_cons_of_mem first ho)) (s.offer first) o ho

theorem offers_of_refuses {offers : List Offer} (h : ∀ o ∈ offers, s.Refuses o) :
    offers.foldl offer s = s := by
  induction offers with
  | nil => rfl
  | cons first rest ih =>
    rw [List.foldl_cons, (h first List.mem_cons_self).offer_eq]
    exact ih fun o ho => h o (List.mem_cons_of_mem first ho)

/-- A task offers no external labels. -/
theorem tier_of_mem_offers {event : Event} {catalog : Catalog} (h : o ∈ event.offers catalog) :
    o.tier ≠ .external := by
  have htask (task : Task) (ho : o ∈ task.offers catalog) : o.tier ≠ .external := by
    unfold Task.offers at ho
    rcases List.mem_append.1 ho with ho | ho
    · obtain ⟨name, -, rfl⟩ := Option.map_eq_some_iff.1 (Option.mem_toList.1 ho)
      exact nofun
    · obtain ⟨label, -, rfl⟩ := Option.map_eq_some_iff.1 (Option.mem_toList.1 ho)
      exact nofun
  unfold Event.offers at h
  split at h
  · cases h
  · obtain ⟨task, -, ho⟩ := List.mem_flatMap.1 h
    exact htask task ho

/-! ## Edits -/

/-- A line is not added twice in a row. -/
theorem appendLine_again (hcapacity : 1 ≤ s.capacity) (line : String) :
    ((s.appendLine line).2.appendLine line).2 = (s.appendLine line).2 := by
  cases hline : Text.nonBlank? line with
  | none => rw [appendLine, appendLine, hline]
  | some kept =>
    have hkept := Text.nonBlank?_of_eq_some hline
    have same : ∀ s : CallState, s.appendLine line = s.appendLine kept := fun s => by
      rw [appendLine, appendLine, hline, hkept]
    rw [same, same, appendLine, hkept]
    dsimp only
    rw [if_pos (getLast?_appendLine hcapacity hkept)]

theorem replaceLines_again (s : CallState) (lines : List String) :
    (s.replaceLines lines).replaceLines lines = s.replaceLines lines := by
  unfold replaceLines
  dsimp only
  by_cases h : (Metadata.normalizeLines lines s.capacity).isEmpty
  · rw [if_pos h, if_pos h]
  · rw [if_neg h]
    dsimp only
    rw [if_neg h]

theorem ensureInitial_again (s : CallState) (lines : List String) :
    (s.ensureInitial lines).ensureInitial lines = s.ensureInitial lines := by
  by_cases hempty : s.lines.isEmpty
  · have hseeded : s.ensureInitial lines = s.replaceLines lines := if_pos hempty
    rw [hseeded, ensureInitial, replaceLines_again, ite_self]
  · have hkept : s.ensureInitial lines = s := if_neg hempty
    rw [hkept, hkept]

/-- An edit that is made again changes nothing. -/
theorem edit_again (hcapacity : 1 ≤ s.capacity) (e : LineEdit) : (s.edit e).edit e = s.edit e := by
  cases e with
  | seed lines => exact ensureInitial_again s lines
  | replace lines => exact replaceLines_again s lines
  | append line => exact appendLine_again hcapacity line

/-- A result that says no more than the line after it leaves no trace. -/
theorem appendLine_completed (hcapacity : 1 ≤ s.capacity) {result : String}
    (h : Text.trim result = "" ∨ Text.trim result = "completed") :
    ((s.appendLine result).2.appendLine "completed").2 = (s.appendLine "completed").2 := by
  cases hkept : Text.nonBlank? result with
  | none =>
    have hsame : s.appendLine result = (false, s) := by rw [appendLine, hkept]
    rw [hsame]
  | some kept =>
    rcases h with h | h
    · have hblank := Text.isBlank_of_nonBlank? hkept
      rw [(Text.trim_eq_empty_iff result).1 h] at hblank
      cases hblank
    · obtain rfl : kept = "completed" := (Text.trim_of_nonBlank? hkept).symm.trans h
      have hclosing : Text.nonBlank? "completed" = some "completed" :=
        Text.nonBlank?_of_eq_some hkept
      have hsame : s.appendLine result = s.appendLine "completed" := by
        rw [appendLine, hkept, appendLine, hclosing]
      rw [hsame]
      exact appendLine_again hcapacity "completed"

/-- An event that shows no result makes one edit, or none. -/
theorem exists_edit {event : Event} (h : ¬event.ShowsResult) :
    ∃ e? : Option LineEdit, ∀ s : CallState, 1 ≤ s.capacity →
      event.edits.foldl edit s = e?.elim s s.edit := by
  unfold Event.edits
  cases hkind : event.kind with
  | snapshot =>
    cases event.task with
    | none => exact ⟨none, fun _ _ => rfl⟩
    | some task =>
      exact ⟨some (.replace (task.progress.filterMap Progress.displayLine)), fun _ _ => rfl⟩
  | progress | other =>
    cases event.progress.bind Progress.displayLine with
    | none => exact ⟨none, fun _ _ => rfl⟩
    | some line => exact ⟨some (.append line), fun _ _ => rfl⟩
  | completed =>
    refine ⟨some (.append "completed"), fun s hcapacity => ?_⟩
    cases htask : event.task with
    | none => rfl
    | some task =>
      refine appendLine_completed hcapacity (Classical.byContradiction fun hresult => h ?_)
      rw [not_or] at hresult
      exact ⟨hkind, task, htask, hresult⟩
  | failed | deleted => exact ⟨some (.append (closingLine event)), fun _ _ => rfl⟩

/-- The edits of an event that shows no result change nothing when they are made again. -/
theorem edits_again {event : Event} (h : ¬event.ShowsResult) (hcapacity : 1 ≤ s.capacity) :
    event.edits.foldl edit (event.edits.foldl edit s) = event.edits.foldl edit s := by
  obtain ⟨e?, he⟩ := exists_edit h
  have hkept : 1 ≤ (event.edits.foldl edit s).capacity := by
    rw [edits_eq]
    exact hcapacity
  rw [he _ hkept, he s hcapacity]
  cases e? with
  | none => rfl
  | some e => exact edit_again hcapacity e

/-! ## Events -/

/-- An event that comes again changes nothing, unless it shows a result. -/
theorem applyEvent_again (hcapacity : 1 ≤ s.capacity) (catalog : Catalog) {event : Event}
    (h : ¬event.ShowsResult) :
    ((s.applyEvent catalog event).2.applyEvent catalog event).2 =
      (s.applyEvent catalog event).2 := by
  rw [applyEvent_eq, applyEvent_eq]
  generalize hoffered : (event.offers catalog).foldl offer s = offered
  have hnamed : (event.edits.foldl edit offered).named = offered.named := by rw [edits_eq]; rfl
  have hrefuses : ∀ o ∈ event.offers catalog, offered.Refuses o := by
    rw [← hoffered]
    exact refuses_offers (fun _ => tier_of_mem_offers) s
  have hkept : 1 ≤ offered.capacity := by
    rw [← hoffered, offers_eq]
    exact hcapacity
  rw [offers_of_refuses fun o ho => (hrefuses o ho).of_named hnamed]
  exact edits_again h hkept

end CallState

namespace CallSession

/-- An event that comes again right away leaves a call as the first one left it, whatever was done
with the call before, unless the event shows the result of a task. -/
theorem redelivery_harmless (callId : String) (capacity : Nat) (tokens : Tokens)
    (actions : List Action) (catalog : Catalog) {event : Event} (h : ¬event.ShowsResult) :
    let s := (run (.new callId capacity tokens) actions).call
    ((s.applyEvent catalog event).2.applyEvent catalog event).2 =
      (s.applyEvent catalog event).2 := by
  have hcapacity : 1 ≤ (run (.new callId capacity tokens) actions).call.capacity := by
    rw [capacity_run]
    exact Nat.le_max_right capacity 1
  exact CallState.applyEvent_again hcapacity catalog h

/-- A task that completed with the result `completed` and brings two labels, told twice to a call
that is being watched and keeps two lines. -/
theorem completion_redelivered :
    let actions : List Action := [.setTaskId "t", .beginWatch, .appendLine "half", .appendLine "most"]
    let event : Event := {
      kind := .completed
      task := some {
        id := "t", commandName := "run_tests", result := " completed\n"
        metadata := "\x7b\"progress_label\":\"Nightly\"\x7d" } }
    let s := (run (.new "call" 2 {}) actions).call
    ¬event.ShowsResult ∧ ((s.applyEvent {} event).2.applyEvent {} event).2 =
      (s.applyEvent {} event).2 := by
  intro actions event s
  have h : ¬event.ShowsResult := by
    rintro ⟨-, task, htask, -, hresult⟩
    obtain rfl := Option.some.inj htask
    exact hresult (by decide +kernel)
  exact ⟨h, redelivery_harmless "call" 2 {} actions {} h⟩

/-- A result and the line after it are both added again, since neither repeats the last line. -/
example :
    let event : Event := { kind := .completed, task := some { result := "ok" } }
    let s := ((CallState.new "call" 3).applyEvent {} event).2
    s.lines = ["ok", "completed"] ∧
      (s.applyEvent {} event).2.lines = ["completed", "ok", "completed"] := by decide +kernel

end CallSession

end TaskWatch
