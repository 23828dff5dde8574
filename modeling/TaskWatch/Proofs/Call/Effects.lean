import TaskWatch.Call.Session
import TaskWatch.Proofs.Call.Closing

/-!
# What is learnt about a call

Everything that is learnt about a call comes down to ids, to labels that are offered to it
(`Offer`), and to edits of its lines (`LineEdit`). An action on a call makes its offers first and its
edits after them; an offer is about the label and its tier only, an edit about the lines only.

* `applyEvent_eq`, `updateFromTask_eq`: the offers and edits of events and tasks;
* `CallSession.known_act`: what is known of a call after an action;
* `CallSession.act_outcome`: what an action does to the watch and the end of the call.
-/

namespace TaskWatch

/-- A label that is offered to a call. -/
structure Offer where
  candidate : String
  tier : LabelTier

/-- What is done to the lines of a call. -/
inductive LineEdit where
  /-- Takes over lines as long as there are none. -/
  | seed (lines : List String)
  /-- Takes over lines. -/
  | replace (lines : List String)
  /-- Adds a line at the end. -/
  | append (line : String)

/-- The labels that a task brings. -/
def Task.offers (task : Task) (catalog : Catalog) : List Offer :=
  ((Text.firstNonBlank? [task.commandName, task.toolName]).map fun name =>
    ⟨catalog.labelFor name, .fallback⟩).toList ++
  ((Metadata.labelIn? Metadata.Parser.decode task.metadata {}).1.map fun label =>
    ⟨label, .metadata⟩).toList

namespace Event

/-- The labels that an event brings: those of its task, unless the task was deleted. -/
def offers (event : Event) (catalog : Catalog) : List Offer :=
  match event.kind with
  | .deleted => []
  | _ => event.task.toList.flatMap (·.offers catalog)

/-- What an event does to the lines. -/
def edits (event : Event) : List LineEdit :=
  match event.kind with
  | .snapshot =>
    event.task.toList.map fun task => .replace (task.progress.filterMap Progress.displayLine)
  | .progress | .other _ => (event.progress.bind Progress.displayLine).toList.map .append
  | .completed => event.task.toList.map (.append ·.result) ++ [.append "completed"]
  | .failed | .deleted => [.append (CallState.closingLine event)]

end Event

namespace CallState

/-- The call after a label was offered. -/
def offer (s : CallState) (o : Offer) : CallState := (s.updateLabel o.candidate o.tier).2

/-- The call after its lines were edited. -/
def edit (s : CallState) : LineEdit → CallState
  | .seed lines => s.ensureInitial lines
  | .replace lines => s.replaceLines lines
  | .append line => (s.appendLine line).2

/-- The label with its tier. -/
def named (s : CallState) : String × LabelTier := (s.label, s.tier)

/-- What is known of the call: its ids, its label and its lines. -/
def known (s : CallState) : Option String × Option String × (String × LabelTier) × List String :=
  (s.taskId, s.sessionId, s.named, s.lines)

theorem setTaskId_eq (s : CallState) (id : String) :
    (s.setTaskId id).2 = { s with taskId := s.taskId.or (Text.nonBlank? id) } := by
  obtain ⟨callId, capacity, taskId⟩ := s
  unfold setTaskId
  cases Text.nonBlank? id <;> cases taskId <;> rfl

theorem setSessionId_eq (s : CallState) (id : String) :
    s.setSessionId id = { s with sessionId := s.sessionId.or (Text.nonBlank? id) } := by
  obtain ⟨callId, capacity, taskId, sessionId⟩ := s
  unfold setSessionId
  cases Text.nonBlank? id <;> cases sessionId <;> rfl

/-! ## Offers -/

theorem offer_eq (s : CallState) (o : Offer) :
    s.offer o = { s with label := (s.offer o).label, tier := (s.offer o).tier } := by
  unfold offer updateLabel
  split
  · rfl
  · split <;> rfl

/-- Offers are about the label and its tier. -/
theorem offers_eq (s : CallState) (offers : List Offer) :
    offers.foldl offer s =
      { s with label := (offers.foldl offer s).label, tier := (offers.foldl offer s).tier } := by
  induction offers generalizing s with
  | nil => rfl
  | cons o rest ih =>
    rw [List.foldl_cons, ih, offer_eq]

/-! ## Edits -/

theorem edit_eq (s : CallState) (e : LineEdit) : s.edit e = { s with lines := (s.edit e).lines } := by
  have replaced (lines : List String) :
      s.replaceLines lines = { s with lines := (s.replaceLines lines).lines } := by
    unfold replaceLines
    dsimp only
    split <;> rfl
  cases e with
  | seed lines =>
    unfold edit ensureInitial
    dsimp only
    split
    · exact replaced lines
    · rfl
  | replace lines => exact replaced lines
  | append line => exact appendLine_eq s line

/-- Edits are about the lines. -/
theorem edits_eq (s : CallState) (edits : List LineEdit) :
    edits.foldl edit s = { s with lines := (edits.foldl edit s).lines } := by
  induction edits generalizing s with
  | nil => rfl
  | cons e rest ih => rw [List.foldl_cons, ih, edit_eq]

/-- What becomes of an edit depends on the lines and how many are kept. -/
theorem lines_edit_congr {s s' : CallState} (hlines : s'.lines = s.lines)
    (hcapacity : s'.capacity = s.capacity) (e : LineEdit) :
    (s'.edit e).lines = (s.edit e).lines := by
  have replaced (lines : List String) :
      (s'.replaceLines lines).lines = (s.replaceLines lines).lines := by
    unfold replaceLines
    dsimp only
    rw [hcapacity]
    split
    · exact hlines
    · rfl
  cases e with
  | seed lines =>
    unfold edit ensureInitial
    dsimp only
    rw [hlines]
    split
    · exact replaced lines
    · exact hlines
  | replace lines => exact replaced lines
  | append line =>
    unfold edit appendLine keepLast
    dsimp only
    rw [hlines, hcapacity]
    split
    · exact hlines
    · split
      · exact hlines
      · rfl

theorem lines_edits_congr {s s' : CallState} (hlines : s'.lines = s.lines)
    (hcapacity : s'.capacity = s.capacity) (edits : List LineEdit) :
    (edits.foldl edit s').lines = (edits.foldl edit s).lines := by
  induction edits generalizing s s' with
  | nil => exact hlines
  | cons e rest ih =>
    refine ih (lines_edit_congr hlines hcapacity e) ?_
    rw [edit_eq s', edit_eq s]
    exact hcapacity

/-- What is known after offers and edits. -/
theorem known_edits (s : CallState) (offers : List Offer) (edits : List LineEdit) :
    (edits.foldl edit (offers.foldl offer s)).known =
      (s.taskId, s.sessionId, (offers.foldl offer s).named, (edits.foldl edit s).lines) := by
  have hlines : (edits.foldl edit (offers.foldl offer s)).lines = (edits.foldl edit s).lines :=
    lines_edits_congr (by rw [offers_eq]) (by rw [offers_eq]) edits
  rw [edits_eq, hlines, offers_eq]
  rfl

/-! ## Tasks and events -/

theorem updateFromTask_eq (s : CallState) (catalog : Catalog) (task : Task) :
    s.updateFromTask catalog task = (task.offers catalog).foldl offer s := by
  unfold updateFromTask Task.offers
  cases Text.firstNonBlank? [task.commandName, task.toolName] <;>
    cases (Metadata.labelIn? Metadata.Parser.decode task.metadata {}).1 <;> rfl

theorem updateFromEvent_eq (s : CallState) (catalog : Catalog) (event : Event) :
    s.updateFromEvent catalog event =
      (event.task.toList.flatMap (·.offers catalog)).foldl offer s := by
  unfold updateFromEvent
  cases event.task with
  | none => rfl
  | some task =>
    rw [Option.toList_some, List.flatMap_singleton]
    exact updateFromTask_eq s catalog task

/-- An event makes its offers, and then its edits. -/
theorem applyEvent_eq (s : CallState) (catalog : Catalog) (event : Event) :
    (s.applyEvent catalog event).2 =
      event.edits.foldl edit ((event.offers catalog).foldl offer s) := by
  have updated := updateFromEvent_eq s catalog event
  unfold applyEvent Event.edits Event.offers closingLine
  cases event.kind with
  | snapshot =>
    dsimp only
    rw [← updated]
    cases event.task <;> rfl
  | progress | other =>
    dsimp only
    rw [← updated]
    cases event.progress.bind Progress.displayLine <;> rfl
  | completed =>
    dsimp only
    rw [← updated]
    cases event.task <;> rfl
  | failed =>
    dsimp only
    rw [← updated]
    rfl
  | deleted => rfl

end CallState

namespace CallSession

open CallState

/-! ## Actions -/

/-- The task that an action binds, if none is bound. -/
def Action.taskId? : Action → Option String
  | .setTaskId id => Text.nonBlank? id
  | _ => none

/-- The session that an action binds, if none is bound. -/
def Action.sessionId? : Action → Option String
  | .setSessionId id => Text.nonBlank? id
  | _ => none

/-- The labels that an action offers. -/
def Action.offers : Action → List Offer
  | .updateLabel candidate tier => [⟨candidate, tier⟩]
  | .applyEvent catalog event => event.offers catalog
  | .updateFromTask catalog task => task.offers catalog
  | _ => []

/-- What an action does to the lines. -/
def Action.edits : Action → List LineEdit
  | .ensureInitial lines => [.seed lines]
  | .replaceLines lines => [.replace lines]
  | .appendLine line => [.append line]
  | .applyEvent _ event => event.edits
  | _ => []

/-- Whether an action is about the watch or the end of the call. -/
def Action.watches : Action → Bool
  | .beginWatch | .finishWatch | .markDone | .cancelWatch => true
  | _ => false

/-- What an action can come to: it learns something about the call, or it is one of the four about
the watch and the end of the call. -/
inductive Outcome (s : CallSession) : Action → Answer → CallSession → Prop
  | learns {action : Action} {answer : Answer} {call : CallState}
      (haction : action.watches = false) (h : s.call.Learns call) :
      Outcome s action answer { s with call := call }
  | refuses (h : s.call.taskId = none ∨ s.call.done = true ∨ s.call.watching = true) :
      Outcome s .beginWatch (.watch none) s
  | begins {id : String} (hid : s.call.taskId = some id) (hdone : s.call.done = false)
      (hwatching : s.call.watching = false) :
      Outcome s .beginWatch (.watch (some (id, s.tokens.next)))
        ⟨s.call.watched s.tokens.next, s.tokens.issue⟩
  | finishes : Outcome s .finishWatch (.flag (s.call.done && !s.call.cleanupClaimed))
      { s with call := s.call.unwatched }
  | ends : Outcome s .markDone (.flag (!s.call.watching && !s.call.cleanupClaimed))
      ⟨s.call.ended, s.tokens.cancelAny s.call.token⟩
  | cancels : Outcome s .cancelWatch .done ⟨s.call.tokenless, s.tokens.cancelAny s.call.token⟩

/-- What an action comes to. -/
theorem act_outcome (s : CallSession) (action : Action) :
    Outcome s action (s.act action).1 (s.act action).2 := by
  cases action with
  | setTaskId id => exact .learns rfl (.setTaskId s.call id)
  | setSessionId id => exact .learns rfl (.setSessionId s.call id)
  | updateLabel candidate tier => exact .learns rfl (.updateLabel s.call candidate tier)
  | ensureInitial lines => exact .learns rfl (.ensureInitial s.call lines)
  | replaceLines lines => exact .learns rfl (.replaceLines s.call lines)
  | appendLine line => exact .learns rfl (.appendLine s.call line)
  | applyEvent catalog event => exact .learns rfl (.applyEvent s.call catalog event)
  | updateFromTask catalog task => exact .learns rfl (.updateFromTask s.call catalog task)
  | beginWatch =>
    unfold act
    dsimp only
    unfold beginWatch
    split
    · next id hid =>
      split
      · next h => exact .refuses (.inr (Bool.or_eq_true_iff.1 h))
      · next h =>
        obtain ⟨hdone, hwatching⟩ := Bool.or_eq_false_iff.1 (Bool.eq_false_iff.2 h)
        exact .begins hid hdone hwatching
    · next hid => exact .refuses (.inl hid)
  | finishWatch =>
    unfold act
    rw [finishWatch_eq]
    exact .finishes
  | markDone =>
    unfold act
    rw [markDone_eq]
    exact .ends
  | cancelWatch => exact .cancels

namespace Outcome

variable {s s' : CallSession} {action : Action} {answer : Answer}

theorem precedes (h : Outcome s action answer s') : s.call.Precedes s'.call := by
  cases h with
  | learns _ h => exact .of_learns h
  | refuses => exact .refl _
  | begins _ hdone => exact .watched _ hdone
  | finishes => exact .unwatched _
  | ends => exact .ended _
  | cancels => exact .tokenless _

/-- The watch and the end of a call change nothing that is known of it. -/
theorem known_of_watches (h : Outcome s action answer s') (haction : action.watches = true) :
    s'.call.known = s.call.known := by
  cases h with
  | learns hnot => rw [hnot] at haction; cases haction
  | refuses | begins | finishes | ends | cancels => rfl

end Outcome

/-- What is known of the call after an action. -/
theorem known_act (s : CallSession) (action : Action) :
    (s.act action).2.call.known =
      (s.call.taskId.or action.taskId?, s.call.sessionId.or action.sessionId?,
        (action.offers.foldl offer s.call).named, (action.edits.foldl edit s.call).lines) := by
  have learnt {action : Action} {call : CallState} (htask : action.taskId? = none)
      (hsession : action.sessionId? = none)
      (h : call = action.edits.foldl edit (action.offers.foldl offer s.call)) :
      call.known =
        (s.call.taskId.or action.taskId?, s.call.sessionId.or action.sessionId?,
          (action.offers.foldl offer s.call).named, (action.edits.foldl edit s.call).lines) := by
    rw [h, known_edits, htask, hsession, Option.or_none, Option.or_none]
  have kept {action : Action} (h : action.watches = true) :
      (s.act action).2.call.known = s.call.known :=
    (act_outcome s action).known_of_watches h
  cases action with
  | setTaskId id =>
    show (s.call.setTaskId id).2.known = _
    rw [setTaskId_eq, show (Action.setTaskId id).sessionId? = none from rfl, Option.or_none]
    rfl
  | setSessionId id =>
    show (s.call.setSessionId id).known = _
    rw [setSessionId_eq, show (Action.setSessionId id).taskId? = none from rfl, Option.or_none]
    rfl
  | updateLabel candidate tier => exact learnt rfl rfl rfl
  | ensureInitial lines => exact learnt rfl rfl rfl
  | replaceLines lines => exact learnt rfl rfl rfl
  | appendLine line => exact learnt rfl rfl rfl
  | applyEvent catalog event => exact learnt rfl rfl (applyEvent_eq s.call catalog event)
  | updateFromTask catalog task => exact learnt rfl rfl (updateFromTask_eq s.call catalog task)
  | beginWatch => exact (kept rfl).trans (learnt rfl rfl rfl)
  | finishWatch => exact (kept rfl).trans (learnt rfl rfl rfl)
  | markDone => exact (kept rfl).trans (learnt rfl rfl rfl)
  | cancelWatch => exact (kept rfl).trans (learnt rfl rfl rfl)

/-! ## Runs -/

theorem run_append (s : CallSession) (before after : List Action) :
    s.run (before ++ after) = (s.run before).run after :=
  List.foldl_append

theorem precedes_run (s : CallSession) (actions : List Action) :
    s.call.Precedes (s.run actions).call := by
  induction actions generalizing s with
  | nil => exact .refl _
  | cons action rest ih => exact (act_outcome s action).precedes.trans (ih _)

/-- How many lines a call keeps is settled once and for all. -/
theorem capacity_run (callId : String) (capacity : Nat) (tokens : Tokens) (actions : List Action) :
    (run (.new callId capacity tokens) actions).call.capacity = max capacity 1 :=
  (precedes_run (.new callId capacity tokens) actions).capacity

end CallSession

end TaskWatch
