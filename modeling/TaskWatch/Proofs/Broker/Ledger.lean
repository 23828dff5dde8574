import Mathlib.Data.List.Induction
import TaskWatch.Proofs.Broker.Changes

/-!
# The books of a broker

What was done with a broker, and what was answered, tells who subscribes to a task: the streams that
watches of the task opened (`opens`), but for those that ended since (`Action.ends`). It also tells
whether the next watch of the task is rejected (`rejection`). The broker keeps no such log; it keeps
lists that it takes apart and puts together again. `subscribers_run` and `rejections_run` say that
they agree.
-/

namespace TaskWatch.BrokerSession

open Broker

/-- What was done, each action with its answer, oldest first. -/
abbrev Log := List (Action × Answer)

/-- The log of some actions, done one after the other, and the session after them. -/
def run (s : BrokerSession) : List Action → Log × BrokerSession
  | [] => ([], s)
  | action :: rest =>
    let (answer, s) := s.step action
    let (log, s) := s.run rest
    ((action, answer) :: log, s)

/-- Whether an action ends the subscription of a stream to a task. -/
def Action.ends (taskId : String) (stream : Nat) : Action → Bool
  | .cancel i | .drop i => i == stream
  | .close task => task == taskId
  | .publish task event => task == taskId && event.isTerminal
  | .watch .. | .receive _ | .reject .. => false

/-- The stream that a watch of a task opened. -/
def opens (taskId : String) : Action × Answer → Option Nat
  | (.watch task _, .opened stream) => if task = taskId then some stream else none
  | _ => none

/-- The streams that watches of a task opened, but for those that ended since. -/
def subscribed (taskId : String) : Log → List Nat
  | [] => []
  | entry :: later =>
    (opens taskId entry).toList.filter (fun stream => !later.any (·.1.ends taskId stream)) ++
      subscribed taskId later

/-- The message that the next watch of a task fails with after an action, given the message before
it. A later message replaces an earlier one, and a watch whose token is not cancelled beforehand
uses it up. -/
def Action.rejects (taskId : String) (message : Option String) : Action → Option String
  | .reject task new => if task = taskId then some new else message
  | .watch task false => if task = taskId then none else message
  | _ => message

/-- The message that the next watch of a task fails with. -/
def rejection (taskId : String) (log : Log) : Option String :=
  log.foldl (fun message entry => entry.1.rejects taskId message) none

variable {s s' : BrokerSession} {b : Broker} {action : Action} {answer : Answer} {i j : Nat}
  {taskId : String}

/-! ## Runs -/

theorem run_cons (s : BrokerSession) (action : Action) (rest : List Action) :
    s.run (action :: rest) = ((action, (s.step action).1) :: ((s.step action).2.run rest).1,
      ((s.step action).2.run rest).2) := rfl

theorem run_concat (s : BrokerSession) (actions : List Action) (action : Action) :
    s.run (actions ++ [action]) =
      ((s.run actions).1 ++ [(action, ((s.run actions).2.step action).1)],
        ((s.run actions).2.step action).2) := by
  induction actions generalizing s with
  | nil => rfl
  | cons first actions ih => rw [List.cons_append, run_cons, run_cons, ih, List.cons_append]

/-- What holds at the start and is kept by every action holds after every run. -/
theorem run_induction {P : List Action → Log → BrokerSession → Prop} (start : P [] [] s)
    (step : ∀ {actions log s'}, P actions log s' → ∀ action,
      P (actions ++ [action]) (log ++ [(action, (s'.step action).1)]) (s'.step action).2)
    (actions : List Action) : P actions (s.run actions).1 (s.run actions).2 := by
  induction actions using List.reverseRecOn with
  | nil => exact start
  | append_singleton actions action ih =>
    rw [run_concat]
    exact step ih action

theorem sound_run (capacity : Nat) (actions : List Action) :
    ((new capacity).run actions).2.Sound :=
  run_induction (P := fun _ _ s => s.Sound) (.new capacity) (fun h action => h.step action) actions

theorem subscribed_concat (taskId : String) (log : Log) (entry : Action × Answer) :
    subscribed taskId (log ++ [entry]) =
      (subscribed taskId log).filter (!entry.1.ends taskId ·) ++ (opens taskId entry).toList := by
  induction log with
  | nil =>
    rw [List.nil_append, subscribed, List.filter_nil, List.nil_append, subscribed, subscribed,
      List.append_nil]
    exact List.filter_eq_self.2 fun _ _ => rfl
  | cons first log ih =>
    rw [List.cons_append, subscribed, ih, subscribed, List.filter_append, List.filter_filter,
      List.append_assoc]
    congr 1
    refine List.filter_congr fun j _ => ?_
    rw [List.any_append, List.any_cons, List.any_nil, Bool.or_false, Bool.not_or, Bool.and_comm]

theorem rejection_concat (taskId : String) (log : Log) (entry : Action × Answer) :
    rejection taskId (log ++ [entry]) = entry.1.rejects taskId (rejection taskId log) := by
  rw [rejection, List.foldl_append]
  rfl

/-! ## Subscriptions -/

/-- What the books say after an action that ends no subscription of a task and opens none. -/
theorem keep_eq {streams : List Nat} (hends : ∀ j ∈ streams, action.ends taskId j = false)
    (hopens : opens taskId (action, answer) = none) :
    streams.filter (!action.ends taskId ·) ++ (opens taskId (action, answer)).toList = streams := by
  rw [hopens, Option.toList_none, List.append_nil]
  exact List.filter_eq_self.2 fun j hj => by rw [hends j hj]; rfl

/-- What the books say after an action that ends all subscriptions of one task. -/
theorem empty_eq {task : String} (streams : List Nat)
    (hends : ∀ j, action.ends taskId j = (task == taskId))
    (hopens : opens taskId (action, answer) = none) :
    streams.filter (!action.ends taskId ·) ++ (opens taskId (action, answer)).toList =
      if taskId = task then [] else streams := by
  split
  · next e =>
    rw [hopens, Option.toList_none, List.append_nil]
    exact List.filter_eq_nil_iff.2 fun j _ => by rw [hends, e]; simp
  · next hne =>
    exact keep_eq (fun j _ => (hends j).trans (beq_eq_false_iff_ne.2 (Ne.symm hne))) hopens

/-- Only what is done with a stream cancels it, and the live streams of a task stay apart. -/
theorem Sound.notMem_liveStreams (h : s.Sound) {task : String} (hne : taskId ≠ task)
    (hj : j ∈ s.broker.liveStreams taskId) : j ∉ s.broker.liveStreams task := fun hm => by
  obtain ⟨ch, hch, rfl⟩ := h.orderly.filed.live.liveStreams hj
  obtain ⟨ch', hch', rfl⟩ := h.orderly.filed.live.liveStreams hm
  exact hne (congrArg Channel.taskId (Option.some.inj (hch.symm.trans hch')))

theorem Sound.notMem_waiting (h : s.Sound) (hj : j ∈ s.broker.liveStreams taskId) :
    j ∉ s.waiting := fun hm => h.notMem_held hm (mem_held hj)

/-- Streams that keep their places and tokens subscribe as they did. -/
theorem streamCancelled_of_tokens {touched : List Nat} {b b' : Broker} (hp : Passes touched b b')
    (htokens : b'.tokens = b.tokens) (j : Nat) : b'.streamCancelled j = b.streamCancelled j := by
  cases hj : b.streams[j]? with
  | none =>
    have hnone := streamCancelled_of_none hj
    rw [hnone, streamCancelled_mono hp hnone]
  | some ch =>
    obtain ⟨ch', hj', same, -⟩ := hp.stream hj
    rw [streamCancelled_eq hj, streamCancelled_eq hj', same.token, htokens]

/-- What is done with one stream, and what goes on then, cancels no other stream that is live. -/
theorem Sound.streamCancelled_settle (h : s.Sound) (hb : s.broker.Touches i b)
    (hj : j ∈ s.broker.liveStreams taskId) :
    (settle { s with broker := b }).broker.streamCancelled j = b.streamCancelled j :=
  (hb.orderly h.orderly).streamCancelled_passes (h.advances hb).passes (h.notMem_waiting hj)

theorem Sound.liveStreams_settle (h : s.Sound) (hb : s.broker.Touches i b) (taskId : String) :
    (settle { s with broker := b }).broker.liveStreams taskId = s.broker.liveStreams taskId :=
  liveStreams_of_live ((h.advances hb).live.trans hb.live) taskId

/-- The subscribers of a task after one stream was cancelled. -/
theorem Sound.subscribers_settle_of_cancelled (h : s.Sound) (hb : s.broker.Touches i b)
    (hi : b.streamCancelled i = true) (taskId : String) :
    (settle { s with broker := b }).broker.subscribers taskId =
      (s.broker.subscribers taskId).filter (!i == ·) := by
  rw [subscribers, h.liveStreams_settle hb, subscribers, List.filter_filter]
  refine List.filter_congr fun j hj => ?_
  rw [h.streamCancelled_settle hb hj]
  by_cases hij : i = j
  · subst hij
    simp [hi]
  · rw [h.orderly.streamCancelled_passes hb.passes fun hm => hij (List.mem_singleton.1 hm).symm]
    simp [hij]

/-- The subscribers after all live streams of a task were taken out. -/
theorem Sound.subscribers_of_emptied (h : s.Sound) {task : String}
    (hp : Passes (s.broker.liveStreams task) s.broker b)
    (hlive : b.live = (s.broker.withoutTask task).live) (taskId : String) :
    b.subscribers taskId = if taskId = task then [] else s.broker.subscribers taskId := by
  have hlive := (liveStreams_of_live hlive taskId).trans (liveStreams_withoutTask s.broker task taskId)
  split
  · next e => rw [subscribers, hlive, if_pos e, List.filter_nil]
  · next hne =>
    rw [if_neg hne] at hlive
    exact subscribers_congr hlive fun j hj =>
      h.orderly.streamCancelled_passes hp (h.notMem_liveStreams hne hj)

/-- A publication that does not end its task gives all subscribers back. -/
theorem Sound.subscribers_publication (h : s.Sound) {event : Event}
    (he : event.isTerminal = false) (task taskId : String) :
    (s.broker.publication task event).2.subscribers taskId = s.broker.subscribers taskId := by
  have hr := h.orderly.publication_hands he task
  have hcancelled := streamCancelled_of_tokens (s.broker.publication_passes task event) hr.tokens
  have hlive := (liveStreams_of_live hr.live taskId).trans (liveStreams_addLive _ _ taskId _)
  have hlive : (s.broker.publication task event).2.liveStreams taskId =
      if taskId = task then s.broker.subscribers task else s.broker.liveStreams taskId := by
    refine hlive.trans ?_
    dsimp only [publish]
    rw [liveStreams_withoutTask, liveStreams_withoutTask, if_pos rfl]
    split
    · rfl
    · rfl
  rw [subscribers, hlive]
  simp only [hcancelled]
  split
  · next e =>
    rw [e, subscribers, List.filter_filter]
    simp only [Bool.and_self]
  · rfl

/-- The stream that a watch opens is a new one, with a token of its own. -/
theorem stream_new (s : BrokerSession) (taskId : String) :
    (s.broker.issue.prune.opened taskId s.broker.tokens.next).streams[s.broker.streams.length]? =
      some (.new taskId s.broker.capacity s.broker.tokens.next) := by
  have hp := Passes.prune s.broker.issue
  have hcapacity : s.broker.issue.prune.capacity = s.broker.capacity := hp.capacity
  have hlength : s.broker.issue.prune.streams.length = s.broker.streams.length := hp.length
  rw [streams_opened, hcapacity, ← hlength, List.getElem?_concat_length]

theorem Sound.subscribers_opened (h : s.Sound) (task taskId : String) :
    (s.broker.issue.prune.opened task s.broker.tokens.next).subscribers taskId =
      s.broker.subscribers taskId ++ if task = taskId then [s.broker.streams.length] else [] := by
  have hissue := h.issue
  have hlength := (Passes.prune s.broker.issue).length
  have hprune : ∀ task, s.broker.issue.prune.liveStreams task = s.broker.subscribers task :=
    fun task => liveStreams_prune hissue.orderly.keyed task
  have hlive : (s.broker.issue.prune.opened task s.broker.tokens.next).liveStreams taskId =
      s.broker.subscribers taskId ++ if task = taskId then [s.broker.streams.length] else [] := by
    rw [Broker.opened, hlength]
    refine (liveStreams_addLive _ _ taskId _).trans ?_
    split
    · next e =>
      rw [if_pos e.symm, ← hprune, e]
      rfl
    · next hne =>
      rw [if_neg (Ne.symm hne), List.append_nil, ← hprune]
      rfl
  rw [subscribers, hlive]
  refine List.filter_eq_self.2 fun j hj => ?_
  rw [Bool.not_eq_true']
  rcases List.mem_append.1 hj with hj | hj
  · obtain ⟨ch, hch, hc⟩ := exists_stream (mem_subscribers.1 hj).2
    obtain ⟨hch, hc⟩ := h.stream_opened hch hc task
    rw [streamCancelled_eq hch, hc]
  · have hnew : (s.broker.issue.prune.opened task s.broker.tokens.next).streams[j]? =
        some (.new task s.broker.capacity s.broker.tokens.next) := by
      obtain rfl : j = s.broker.streams.length := by
        split at hj
        · exact List.mem_singleton.1 hj
        · exact absurd hj List.not_mem_nil
      exact s.stream_new task
    rw [streamCancelled_eq hnew, tokens_opened]
    refine eq_false_of_ne_true fun hc => ?_
    rcases (Passes.prune s.broker.issue).cause hc with hc | ⟨_, hm, -⟩
    · exact Nat.lt_irrefl _ (h.orderly.cancelled hc)
    · exact absurd hm List.not_mem_nil

/-- The subscribers after an action are those before it, but for those whose subscriptions it ends,
and the stream that it opens. -/
theorem Changes.subscribers_eq (h : s.Sound) (hc : Changes s action answer s') (taskId : String) :
    s'.broker.subscribers taskId =
      (s.broker.subscribers taskId).filter (!action.ends taskId ·) ++
        (opens taskId (action, answer)).toList := by
  cases hc with
  | refused task =>
    rw [keep_eq (fun _ _ => rfl) rfl]
    exact subscribers_congr rfl fun j _ => h.streamCancelled_refused j
  | rejected task message rejection =>
    rw [keep_eq (fun _ _ => rfl) rfl]
    rfl
  | opened task rejection =>
    have hkeep : (s.broker.subscribers taskId).filter
        (!Action.ends taskId · (.watch task false)) = s.broker.subscribers taskId :=
      List.filter_eq_self.2 fun _ _ => rfl
    rw [h.subscribers_opened, hkeep, opens]
    congr 1
    split <;> rfl
  | published task event =>
    cases he : event.isTerminal with
    | false =>
      rw [keep_eq (fun _ _ => ?_) rfl, h.subscribers_publication he]
      rw [Action.ends, he, Bool.and_false]
    | true =>
      have hlive := (s.broker.publication_outcome task event).live_eq he rfl
      rw [h.subscribers_of_emptied (s.broker.publication_passes task event) hlive]
      refine (empty_eq _ (fun j => ?_) rfl).symm
      rw [Action.ends, he, Bool.and_true]
  | received i hb =>
    rw [keep_eq (fun _ _ => rfl) rfl]
    have ht := touches_receive hb
    refine subscribers_congr (h.liveStreams_settle ht taskId) fun j hj => ?_
    obtain ⟨ch, -, -, -, rfl⟩ := receive_eq_some hb
    rw [h.streamCancelled_settle ht hj]
    exact streamCancelled_of_tokens ht.passes rfl j
  | @cancelled i ch hi =>
    refine (h.subscribers_settle_of_cancelled (touches_cancel hi) ?_ taskId).trans
      (List.append_nil _).symm
    have hi' : (s.broker.cancel ch.token).streams[i]? = some ch := hi
    rw [streamCancelled_eq hi', cancel, Tokens.isCancelled_cancel, beq_self_eq_true, Bool.true_or]
  | @dropped i ch hi =>
    refine (h.subscribers_settle_of_cancelled (touches_dropStream s.broker i) ?_ taskId).trans
      (List.append_nil _).symm
    obtain ⟨ch', hi', same, -⟩ := (Passes.dropStream s.broker i).stream hi
    rw [streamCancelled_eq hi', same.token, isCancelled_dropStream hi]
  | missed i gone which =>
    have hends : ∀ j ∈ s.broker.subscribers taskId, action.ends taskId j = false := fun j hj => by
      have hij : i ≠ j := by
        rintro rfl
        exact absurd ((mem_subscribers.1 hj).2.symm.trans gone) (by decide)
      rcases which with rfl | rfl | rfl
      · rfl
      · exact beq_eq_false_iff_ne.2 hij
      · exact beq_eq_false_iff_ne.2 hij
    rw [keep_eq hends]
    rcases which with rfl | rfl | rfl <;> rfl
  | closed task =>
    rw [h.subscribers_of_emptied (.close s.broker task) (live_close s.broker task)]
    exact (empty_eq _ (fun _ => rfl) rfl).symm
  | rejecting task message =>
    rw [keep_eq (fun _ _ => rfl) rfl]
    rfl

/-- The subscribers of a task are those that the books tell. -/
theorem subscribers_run (capacity : Nat) (actions : List Action) (taskId : String) :
    ((new capacity).run actions).2.broker.subscribers taskId =
      subscribed taskId ((new capacity).run actions).1 := by
  have hrun := run_induction (s := new capacity)
    (P := fun _ log s => s.Sound ∧ s.broker.subscribers taskId = subscribed taskId log)
    ⟨.new capacity, rfl⟩ (fun ⟨h, hs⟩ action => ⟨h.step action, ?_⟩) actions
  · exact hrun.2
  · rw [(h.changes action).subscribers_eq h, subscribed_concat, hs]

/-! ## Streams that are left alone -/

/-- Whether an action is about a stream or the task that it subscribes to. -/
def Action.concerns (taskId : String) (stream : Nat) : Action → Bool
  | .receive i | .cancel i | .drop i => i == stream
  | .publish task _ | .close task => task == taskId
  | .watch .. | .reject .. => false

theorem Sound.stream_settle (h : s.Sound) (hb : s.broker.Touches i b) (hij : (i == j) = false)
    (hj : j ∉ s.waiting) :
    (settle { s with broker := b }).broker.streams[j]? = s.broker.streams[j]? := by
  have hne : j ∉ [i] := fun hm => beq_eq_false_iff_ne.1 hij (List.mem_singleton.1 hm).symm
  exact ((h.advances hb).spares j hj).trans (hb.spares j hne)

/-- A subscriber stays as it is in every action that is about other streams and other tasks. -/
theorem Changes.stream_eq (h : s.Sound) (hc : Changes s action answer s')
    (hj : j ∈ s.broker.subscribers taskId) (hother : action.concerns taskId j = false) :
    s'.broker.streams[j]? = s.broker.streams[j]? := by
  obtain ⟨hlive, hcancelled⟩ := mem_subscribers.1 hj
  have hother' : ∀ {task}, (task == taskId) = false → j ∉ s.broker.liveStreams task := fun hne =>
    h.notMem_liveStreams (Ne.symm (beq_eq_false_iff_ne.1 hne)) hlive
  cases hc with
  | refused | rejected | missed | rejecting => rfl
  | opened task =>
    obtain ⟨ch, hch, hc⟩ := exists_stream hcancelled
    exact (h.stream_opened hch hc task).1.trans hch.symm
  | published task event => exact h.orderly.spares_publication task event j (hother' hother)
  | received i hb => exact h.stream_settle (touches_receive hb) hother (h.notMem_waiting hlive)
  | cancelled i hi => exact h.stream_settle (touches_cancel hi) hother (h.notMem_waiting hlive)
  | dropped i => exact h.stream_settle (touches_dropStream _ i) hother (h.notMem_waiting hlive)
  | closed task => exact Spares.close s.broker task j (hother' hother)

/-! ## Rejections -/

/-- The message that the next watch of a task fails with, as the broker keeps it. -/
def kept (s : BrokerSession) (taskId : String) : Option String :=
  (s.broker.rejections.find? (·.1 == taskId)).map (·.2)

theorem kept_congr (h : s'.broker.rejections = s.broker.rejections) (taskId : String) :
    s'.kept taskId = s.kept taskId := by
  rw [kept, kept, h]

theorem Changes.kept_eq (h : s.Sound) (hc : Changes s action answer s') (taskId : String) :
    s'.kept taskId = action.rejects taskId (s.kept taskId) := by
  cases hc with
  | refused => rfl
  | rejected task message =>
    rw [kept, find?_filter_key, Action.rejects]
    by_cases e : task = taskId
    · rw [if_pos e.symm, if_pos e]
      rfl
    · rw [if_neg (Ne.symm e), if_neg e]
      rfl
  | opened task hnone =>
    have hsame := (rejections_opened s.broker.issue.prune task s.broker.tokens.next).trans
      (rejections_prune s.broker.issue)
    rw [Action.rejects]
    refine (kept_congr hsame taskId).trans ?_
    split
    · next e => rw [kept, ← e, hnone]; rfl
    · rfl
  | published task event => exact kept_congr (rejections_advance _ _ _) taskId
  | received i hb =>
    have ht := touches_receive hb
    exact kept_congr ((h.advances ht).rejections.trans ht.rejections) taskId
  | cancelled i hi => exact kept_congr (h.advances (touches_cancel hi)).rejections taskId
  | dropped i =>
    have ht := touches_dropStream s.broker i
    exact kept_congr ((h.advances ht).rejections.trans ht.rejections) taskId
  | missed i gone which => rcases which with rfl | rfl | rfl <;> rfl
  | closed task => exact kept_congr (rejections_close _ _) taskId
  | rejecting task message =>
    rw [kept, reject, Action.rejects]
    by_cases e : task = taskId
    · rw [if_pos e, List.find?_cons_of_pos (by simpa using e)]
      rfl
    · rw [if_neg e, List.find?_cons_of_neg (by simpa using e), find?_filter_key,
        if_neg (Ne.symm e), kept]

/-- The broker keeps the messages that the books tell. -/
theorem kept_run (capacity : Nat) (actions : List Action) (taskId : String) :
    ((new capacity).run actions).2.kept taskId =
      rejection taskId ((new capacity).run actions).1 := by
  have hrun := run_induction (s := new capacity)
    (P := fun _ log s => s.Sound ∧ s.kept taskId = rejection taskId log)
    ⟨.new capacity, rfl⟩ (fun ⟨h, hs⟩ action => ⟨h.step action, ?_⟩) actions
  · exact hrun.2
  · rw [(h.changes action).kept_eq h, rejection_concat, hs]

end TaskWatch.BrokerSession
