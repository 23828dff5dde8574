import TaskWatch.Proofs.Call.Effects

/-!
# The watch slot of a call

A call has room for one watch at a time. Whatever is done with it and in whatever order:

* the cleanup is claimed once, by the action that makes the call disposable (`claims_run`);
* a watch that runs keeps the slot until it is finished (`watching_run`), and no watch begins once
  the call has ended (`begins_of_done`);
* the token of a watch is cancelled by whatever ends the call or cancels the watch before the watch
  is finished, and by nothing else (`isCancelled_run_of_held`);
* the ids of a call are the first that were not blank (`ids_run`).

`slot_lawful` puts them together.
-/

namespace TaskWatch.CallSession

open CallState

/-- Whether an answer claims the cleanup. -/
def claims : Action × Answer → Bool
  | (.finishWatch, .flag claimed) => claimed
  | (.markDone, .flag claimed) => claimed
  | _ => false

/-- A watch would begin. -/
def Begins (s : CallSession) : Prop :=
  ∃ watch, (s.act .beginWatch).1 = .watch (some watch)

/-- Some actions end the call or cancel the watch before the watch is finished. -/
def Cancelling (actions : List Action) : Prop :=
  ∃ during action after, actions = during ++ action :: after ∧ .finishWatch ∉ during ∧
    (action = .markDone ∨ action = .cancelWatch)

/-- What the watch slot of a call guarantees over some actions. -/
structure Lawful (s : CallSession) (actions : List Action) : Prop where
  /-- The cleanup is claimed when the call becomes disposable, and only then. -/
  claimed : (s.history actions).countP claims =
    if (s.run actions).call.disposable then 1 else 0
  disposable : ∀ more, (s.run actions).call.disposable = true →
    (s.run (actions ++ more)).call.disposable = true
  /-- Between two watches the first is finished. -/
  apart : ∀ before between after,
    actions = before ++ .beginWatch :: (between ++ .beginWatch :: after) →
    (s.run before).Begins → (s.run (before ++ .beginWatch :: between)).Begins →
    .finishWatch ∈ between
  ended : ∀ before between after,
    actions = before ++ .markDone :: (between ++ .beginWatch :: after) →
    ¬(s.run (before ++ .markDone :: between)).Begins
  /-- When the token of a watch is cancelled, unless it was before. -/
  cancelled : ∀ before after id token, actions = before ++ .beginWatch :: after →
    ((s.run before).act .beginWatch).1 = .watch (some (id, token)) →
    ((s.run actions).tokens.isCancelled token = true ↔
      s.tokens.isCancelled token = true ∨ Cancelling after)
  taskId : (s.run actions).call.taskId = actions.findSome? Action.taskId?
  sessionId : (s.run actions).call.sessionId = actions.findSome? Action.sessionId?

/-! ## The cleanup -/

namespace Outcome

variable {s s' : CallSession} {action : Action} {answer : Answer}

/-- An answer claims the cleanup exactly when the action made it claimed. -/
theorem claims_add (h : Outcome s action answer s') :
    (if claims (action, answer) then 1 else 0) + s.call.cleanupClaimed.toNat =
      s'.call.cleanupClaimed.toNat := by
  cases h with
  | learns haction h =>
    have hclaims : claims (action, answer) = false := by
      cases action <;> first | rfl | cases haction
    rw [hclaims, h.cleanupClaimed]
    exact Nat.zero_add _
  | refuses | begins | cancels => exact Nat.zero_add _
  | finishes =>
    show (if s.call.done && !s.call.cleanupClaimed then 1 else 0) + _ =
      (s.call.cleanupClaimed || s.call.done).toNat
    cases s.call.done <;> cases s.call.cleanupClaimed <;> rfl
  | ends =>
    show (if !s.call.watching && !s.call.cleanupClaimed then 1 else 0) + _ =
      (s.call.cleanupClaimed || !s.call.watching).toNat
    cases s.call.watching <;> cases s.call.cleanupClaimed <;> rfl

/-- The cleanup is claimed exactly when the call is disposable. -/
theorem cleanupClaimed (h : Outcome s action answer s')
    (hs : s.call.cleanupClaimed = s.call.disposable) :
    s'.call.cleanupClaimed = s'.call.disposable := by
  cases h with
  | learns _ h => rw [h.cleanupClaimed, h.disposable, hs]
  | refuses => exact hs
  | begins _ hdone hwatching =>
    show s.call.cleanupClaimed = (s.call.done && !true)
    rw [hs, CallState.disposable, hdone]
    rfl
  | finishes =>
    rw [disposable_unwatched]
    show (s.call.cleanupClaimed || s.call.done) = s.call.done
    rw [hs, CallState.disposable]
    cases s.call.done <;> simp
  | ends =>
    rw [disposable_ended]
    show (s.call.cleanupClaimed || !s.call.watching) = !s.call.watching
    rw [hs, CallState.disposable]
    cases s.call.watching <;> simp
  | cancels => exact hs

end Outcome

theorem cleanupClaimed_run {s : CallSession} (hs : s.call.cleanupClaimed = s.call.disposable)
    (actions : List Action) :
    (s.run actions).call.cleanupClaimed = (s.run actions).call.disposable := by
  induction actions generalizing s with
  | nil => exact hs
  | cons action rest ih => exact ih ((act_outcome s action).cleanupClaimed hs)

/-- The claims made are those by which the cleanup has become claimed. -/
theorem claims_run (s : CallSession) (actions : List Action) :
    (s.history actions).countP claims + s.call.cleanupClaimed.toNat =
      (s.run actions).call.cleanupClaimed.toNat := by
  induction actions generalizing s with
  | nil => exact Nat.zero_add _
  | cons action rest ih =>
    have hstep := (act_outcome s action).claims_add
    have hrest := ih (s.act action).2
    show ((action, (s.act action).1) :: (s.act action).2.history rest).countP claims + _ =
      ((s.act action).2.run rest).call.cleanupClaimed.toNat
    rw [List.countP_cons]
    omega

/-! ## One watch at a time -/

theorem watching_act {s : CallSession} {action : Action} (hwatching : s.call.watching = true)
    (haction : action ≠ .finishWatch) : (s.act action).2.call.watching = true := by
  have h := act_outcome s action
  generalize (s.act action).1 = answer at h
  generalize (s.act action).2 = s' at h ⊢
  cases h with
  | learns _ h => exact h.watching.trans hwatching
  | begins => rfl
  | finishes => exact absurd rfl haction
  | refuses | ends | cancels => exact hwatching

/-- A watch runs until it is finished. -/
theorem watching_run {s : CallSession} (hwatching : s.call.watching = true) {actions : List Action}
    (hactions : .finishWatch ∉ actions) : (s.run actions).call.watching = true := by
  induction actions generalizing s with
  | nil => exact hwatching
  | cons action rest ih =>
    rw [List.mem_cons, not_or] at hactions
    exact ih (watching_act hwatching (Ne.symm hactions.1)) hactions.2

/-- What begins a watch. -/
theorem act_beginWatch {s : CallSession} {id : String} {token : Token}
    (h : (s.act .beginWatch).1 = .watch (some (id, token))) :
    s.call.done = false ∧ s.call.watching = false ∧ token = s.tokens.next ∧
      (s.act .beginWatch).2 = ⟨s.call.watched token, s.tokens.issue⟩ := by
  have houtcome := act_outcome s .beginWatch
  rw [h] at houtcome
  generalize (s.act .beginWatch).2 = s' at houtcome ⊢
  cases houtcome with
  | learns haction => cases haction
  | begins _ hdone hwatching => exact ⟨hdone, hwatching, rfl, rfl⟩

theorem begins_of_done {s : CallSession} (h : s.Begins) : s.call.done = false := by
  obtain ⟨⟨id, token⟩, h⟩ := h
  exact (act_beginWatch h).1

theorem begins_of_watching {s : CallSession} (h : s.Begins) : s.call.watching = false := by
  obtain ⟨⟨id, token⟩, h⟩ := h
  exact (act_beginWatch h).2.1

theorem done_markDone (s : CallSession) : (s.act .markDone).2.call.done = true := by
  unfold act
  rw [markDone_eq]
  rfl

theorem watching_of_begins {s : CallSession} (h : s.Begins) :
    (s.act .beginWatch).2.call.watching = true := by
  obtain ⟨⟨id, token⟩, h⟩ := h
  rw [(act_beginWatch h).2.2.2]
  rfl

/-! ## The token of a watch -/

theorem cancelling_cons {action : Action} {actions : List Action} :
    Cancelling (action :: actions) ↔
      (action = .markDone ∨ action = .cancelWatch) ∨ action ≠ .finishWatch ∧ Cancelling actions := by
  constructor
  · rintro ⟨during, a, after, heq, hduring, ha⟩
    cases during with
    | nil =>
      obtain ⟨rfl, rfl⟩ := List.cons.inj heq
      exact .inl ha
    | cons b during =>
      obtain ⟨rfl, rfl⟩ := List.cons.inj heq
      rw [List.mem_cons, not_or] at hduring
      exact .inr ⟨Ne.symm hduring.1, during, a, after, rfl, hduring.2, ha⟩
  · rintro (ha | ⟨hne, during, a, after, rfl, hduring, ha⟩)
    · exact ⟨[], action, actions, rfl, List.not_mem_nil, ha⟩
    · refine ⟨action :: during, a, after, rfl, ?_, ha⟩
      rw [List.mem_cons, not_or]
      exact ⟨Ne.symm hne, hduring⟩

theorem not_cancelling_nil : ¬Cancelling [] := by
  rintro ⟨during, action, after, h, -⟩
  exact List.append_ne_nil_of_right_ne_nil during (List.cons_ne_nil action after) h.symm

/-- A call holds a token that was handed out. -/
def Holds (s : CallSession) : Prop :=
  ∀ token, s.call.token = some token → token < s.tokens.issued

/-- Tokens come to a call only when they are handed out, and only its own is cancelled. -/
theorem tokens_act (s : CallSession) (action : Action) (token : Token) :
    s.tokens.issued ≤ (s.act action).2.tokens.issued ∧
      ((s.act action).2.call.token = some token → s.call.token = some token ∨
        token = s.tokens.issued ∧ token < (s.act action).2.tokens.issued) ∧
      (s.call.token ≠ some token →
        (s.act action).2.tokens.isCancelled token = s.tokens.isCancelled token) := by
  have hcancel (h : s.call.token ≠ some token) :
      (s.tokens.cancelAny s.call.token).isCancelled token = s.tokens.isCancelled token := by
    rw [Tokens.isCancelled_cancelAny, beq_false_of_ne h, Bool.false_or]
  have hsame : s.tokens.issued ≤ (s.tokens.cancelAny s.call.token).issued :=
    Nat.le_of_eq (Tokens.issued_cancelAny _ _).symm
  have h := act_outcome s action
  generalize (s.act action).1 = answer at h
  generalize (s.act action).2 = s' at h ⊢
  cases h with
  | learns _ h => exact ⟨Nat.le_refl _, fun htoken => .inl (h.token ▸ htoken), fun _ => rfl⟩
  | refuses => exact ⟨Nat.le_refl _, .inl, fun _ => rfl⟩
  | begins =>
    refine ⟨Nat.le_succ _, fun htoken => .inr ?_, fun _ => rfl⟩
    obtain rfl := Option.some.inj htoken
    exact ⟨rfl, Nat.lt_succ_self _⟩
  | finishes => exact ⟨Nat.le_refl _, nofun, fun _ => rfl⟩
  | ends | cancels => exact ⟨hsame, nofun, hcancel⟩

theorem holds_act {s : CallSession} (h : s.Holds) (action : Action) :
    (s.act action).2.Holds := by
  intro token htoken
  obtain ⟨hissued, hcome, -⟩ := tokens_act s action token
  obtain hheld | ⟨-, hlt⟩ := hcome htoken
  · exact Nat.lt_of_lt_of_le (h token hheld) hissued
  · exact hlt

/-- A token that is not handed out yet stays as it is. -/
theorem isCancelled_run_of_next {s : CallSession} (h : s.Holds) (actions : List Action) :
    (s.run actions).tokens.isCancelled (s.run actions).tokens.next =
        s.tokens.isCancelled (s.run actions).tokens.next ∧
      s.tokens.issued ≤ (s.run actions).tokens.issued := by
  induction actions generalizing s with
  | nil => exact ⟨rfl, Nat.le_refl _⟩
  | cons action rest ih =>
    obtain ⟨hsame, hle⟩ := ih (holds_act h action)
    obtain ⟨hissued, -, hcancel⟩ := tokens_act s action (s.run (action :: rest)).tokens.next
    have hnot : s.call.token ≠ some (s.run (action :: rest)).tokens.next := fun htoken =>
      absurd (h _ htoken) (Nat.not_lt.2 (Nat.le_trans hissued hle))
    exact ⟨hsame.trans (hcancel hnot), Nat.le_trans hissued hle⟩

/-- A token that the call holds no more stays as it is. -/
theorem isCancelled_run_of_released {s : CallSession} {token : Token}
    (hissued : token < s.tokens.issued) (hreleased : s.call.token ≠ some token)
    (actions : List Action) :
    (s.run actions).tokens.isCancelled token = s.tokens.isCancelled token := by
  induction actions generalizing s with
  | nil => rfl
  | cons action rest ih =>
    obtain ⟨hle, hcome, hcancel⟩ := tokens_act s action token
    have hreleased' : (s.act action).2.call.token ≠ some token := fun htoken => by
      obtain hheld | ⟨heq, -⟩ := hcome htoken
      · exact hreleased hheld
      · exact Nat.ne_of_lt hissued heq
    exact (ih (Nat.lt_of_lt_of_le hissued hle) hreleased').trans (hcancel hreleased)

/-- What becomes of the token that a running watch holds: either the action leaves the watch alone,
or the token is given up, cancelled or not. -/
theorem act_of_held {s : CallSession} {token : Token} (hwatching : s.call.watching = true)
    (hheld : s.call.token = some token) (hissued : token < s.tokens.issued) (action : Action) :
    (action ≠ .finishWatch ∧ action ≠ .markDone ∧ action ≠ .cancelWatch ∧
      (s.act action).2.call.watching = true ∧ (s.act action).2.call.token = some token ∧
      (s.act action).2.tokens = s.tokens) ∨
    (action = .finishWatch ∧ (s.act action).2.call.token = none ∧
      (s.act action).2.tokens = s.tokens) ∨
    ((action = .markDone ∨ action = .cancelWatch) ∧ (s.act action).2.call.token = none ∧
      token < (s.act action).2.tokens.issued ∧
      (s.act action).2.tokens.isCancelled token = true) := by
  have hcancel : (s.tokens.cancelAny s.call.token).isCancelled token = true := by
    rw [Tokens.isCancelled_cancelAny, hheld, beq_self_eq_true, Bool.true_or]
  have hsame : token < (s.tokens.cancelAny s.call.token).issued := by
    rw [Tokens.issued_cancelAny]
    exact hissued
  have h := act_outcome s action
  generalize (s.act action).1 = answer at h
  generalize (s.act action).2 = s' at h ⊢
  cases h with
  | learns haction h =>
    refine .inl ⟨?_, ?_, ?_, h.watching.trans hwatching, h.token.trans hheld, rfl⟩ <;>
      (rintro rfl; cases haction)
  | refuses => exact .inl ⟨nofun, nofun, nofun, hwatching, hheld, rfl⟩
  | begins _ _ hnot => exact absurd (hwatching.symm.trans hnot) (by decide)
  | finishes => exact .inr (.inl ⟨rfl, rfl, rfl⟩)
  | ends => exact .inr (.inr ⟨.inl rfl, rfl, hsame, hcancel⟩)
  | cancels => exact .inr (.inr ⟨.inr rfl, rfl, hsame, hcancel⟩)

/-- The token of a running watch is cancelled by what ends the call or cancels the watch before the
watch is finished. -/
theorem isCancelled_run_of_held {s : CallSession} {token : Token}
    (hwatching : s.call.watching = true) (hheld : s.call.token = some token)
    (hissued : token < s.tokens.issued) (actions : List Action) :
    (s.run actions).tokens.isCancelled token = true ↔
      s.tokens.isCancelled token = true ∨ Cancelling actions := by
  induction actions generalizing s with
  | nil =>
    show s.tokens.isCancelled token = true ↔ _
    simp only [not_cancelling_nil, or_false]
  | cons action rest ih =>
    show ((s.act action).2.run rest).tokens.isCancelled token = true ↔ _
    rw [cancelling_cons]
    obtain ⟨hfinish, hend, hcancel, hwatching', hheld', htokens⟩ | ⟨rfl, hnone, htokens⟩ |
      ⟨haction, hnone, hissued', hcancelled⟩ := act_of_held hwatching hheld hissued action
    · rw [ih hwatching' hheld' (htokens ▸ hissued), htokens]
      simp only [hfinish, hend, hcancel, or_self, ne_eq, not_false_eq_true, true_and, false_or]
    · have hreleased : (s.act .finishWatch).2.call.token ≠ some token := hnone ▸ nofun
      rw [isCancelled_run_of_released (htokens ▸ hissued) hreleased, htokens]
      simp
    · have hreleased : (s.act action).2.call.token ≠ some token := hnone ▸ nofun
      rw [isCancelled_run_of_released hissued' hreleased, hcancelled]
      simp only [haction, true_or, or_true]

/-! ## Ids -/

/-- The ids of a call are the first it had or was given. -/
theorem ids_run (s : CallSession) (actions : List Action) :
    (s.run actions).call.taskId = s.call.taskId.or (actions.findSome? Action.taskId?) ∧
      (s.run actions).call.sessionId =
        s.call.sessionId.or (actions.findSome? Action.sessionId?) := by
  induction actions generalizing s with
  | nil => exact ⟨(Option.or_none).symm, (Option.or_none).symm⟩
  | cons action rest ih =>
    have hknown := known_act s action
    have htask : (s.act action).2.call.taskId = s.call.taskId.or action.taskId? :=
      congrArg Prod.fst hknown
    have hsession : (s.act action).2.call.sessionId = s.call.sessionId.or action.sessionId? :=
      congrArg (·.2.1) hknown
    obtain ⟨ihtask, ihsession⟩ := ih (s.act action).2
    have hcons (f : Action → Option String) :
        (action :: rest).findSome? f = (f action).or (rest.findSome? f) := by
      rw [List.findSome?_cons]
      cases f action <;> rfl
    rw [hcons, hcons, ← Option.or_assoc, ← Option.or_assoc, ← htask, ← hsession]
    exact ⟨ihtask, ihsession⟩

/-! ## The law of the slot -/

/-- Whatever is done with a new call, in any order and as often as one likes. -/
theorem slot_lawful (callId : String) (capacity : Nat) (tokens : Tokens) (actions : List Action) :
    Lawful (.new callId capacity tokens) actions where
  claimed := by
    have hcount := claims_run (.new callId capacity tokens) actions
    rw [cleanupClaimed_run rfl] at hcount
    cases hdisposable : (run (.new callId capacity tokens) actions).call.disposable <;>
      rw [hdisposable] at hcount <;> exact hcount
  disposable more h := by
    rw [run_append]
    exact (precedes_run _ more).disposable h
  apart before between after _ hfirst hsecond := by
    refine Classical.byContradiction fun hfinish => ?_
    have hwatching := watching_run (watching_of_begins hfirst) hfinish
    rw [run_append] at hsecond
    exact absurd (hwatching.symm.trans (begins_of_watching hsecond)) (by decide)
  ended before between after _ h := by
    have hdone := (precedes_run _ between).done
      (done_markDone (run (.new callId capacity tokens) before))
    rw [run_append] at h
    exact absurd (hdone.symm.trans (begins_of_done h)) (by decide)
  cancelled before after id token hactions hbegin := by
    obtain ⟨-, -, rfl, hbegun⟩ := act_beginWatch hbegin
    obtain ⟨hfresh, -⟩ := isCancelled_run_of_next (s := .new callId capacity tokens) nofun before
    have hrun : run (.new callId capacity tokens) actions =
        ((run (.new callId capacity tokens) before).act .beginWatch).2.run after := by
      rw [hactions, run_append]
      rfl
    rw [hrun, hbegun, isCancelled_run_of_held rfl rfl (Nat.lt_succ_self _)]
    show Tokens.isCancelled (run (.new callId capacity tokens) before).tokens _ = true ∨ _ ↔ _
    rw [hfresh]
  taskId := (ids_run _ actions).1
  sessionId := (ids_run _ actions).2

end TaskWatch.CallSession
