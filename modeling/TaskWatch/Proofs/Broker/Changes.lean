import TaskWatch.Proofs.Broker.Advances

/-!
# What can happen to a broker in use

Between two actions nothing goes on by itself (`Sound`). So an action comes to one change of the
broker, and only what is done with one stream can make a publication go on that was under way
before.

* `Changes`, `Sound.changes`: all that an action can come to;
* `Sound.step`, `Sound.new`: a session stays sound.
-/

namespace TaskWatch

namespace BrokerSession

open Broker

variable {s s' : BrokerSession} {b : Broker} {i j : Nat}

/-! ## Sessions -/

/-- The streams that publications under way have yet to come to. -/
def waiting (s : BrokerSession) : List Nat := s.publications.flatMap pendingOf

/-- The session when every publication has gone as far as it goes. -/
def settle (s : BrokerSession) : BrokerSession :=
  ⟨(advanceAll s.broker s.publications).2, (advanceAll s.broker s.publications).1⟩

/-- The streams are in order, and no publication can go on by itself. -/
structure Sound (s : BrokerSession) : Prop where
  orderly : s.broker.Orderly s.waiting
  waits : ∀ {p}, .inl p ∈ s.publications → s.broker.Waits p

/-- What an action comes to. -/
inductive Changes (s : BrokerSession) : Action → Answer → BrokerSession → Prop
  /-- A watch whose token is cancelled uses up nothing but the token. -/
  | refused (taskId : String) : Changes s (.watch taskId true) (.failed .cancelled)
      { s with broker := s.broker.issue.cancel s.broker.tokens.next }
  /-- A watch that is rejected uses up the rejection. -/
  | rejected (taskId message : String)
      (rejection : s.broker.rejections.find? (·.1 == taskId) = some (taskId, message)) :
      Changes s (.watch taskId false) (.failed (.daemon message))
        { s with broker := { s.broker.issue with
            rejections := s.broker.rejections.filter (·.1 != taskId) } }
  | opened (taskId : String) (rejection : s.broker.rejections.find? (·.1 == taskId) = none) :
      Changes s (.watch taskId false) (.opened s.broker.streams.length)
        { s with broker := s.broker.issue.prune.opened taskId s.broker.tokens.next }
  | published (taskId : String) (event : Event) :
      Changes s (.publish taskId event) (.publication s.publications.length)
        ⟨(s.broker.publication taskId event).2,
          s.publications ++ [(s.broker.publication taskId event).1]⟩
  | received (i : Nat) {reception : Reception} {b : Broker}
      (hb : s.broker.receive i = some (reception, b)) :
      Changes s (.receive i) (.reception reception) (settle { s with broker := b })
  | cancelled (i : Nat) {ch : Channel} (hi : s.broker.streams[i]? = some ch) :
      Changes s (.cancel i) .done (settle { s with broker := s.broker.cancel ch.token })
  | dropped (i : Nat) {ch : Channel} (hi : s.broker.streams[i]? = some ch) :
      Changes s (.drop i) (.flag ch.hasStream) (settle { s with broker := s.broker.dropStream i })
  /-- Nothing can be done with a stream that is gone. -/
  | missed {action : Action} (i : Nat) (gone : s.broker.streamCancelled i = true)
      (which : action = .receive i ∨ action = .cancel i ∨ action = .drop i) :
      Changes s action .missing s
  | closed (taskId : String) :
      Changes s (.close taskId) .done { s with broker := s.broker.close taskId }
  | rejecting (taskId message : String) :
      Changes s (.reject taskId message) .done { s with broker := s.broker.reject taskId message }

theorem step_eq (s : BrokerSession) (action : Action) :
    s.step action = ((s.act action).1, (s.act action).2.settle) := rfl

/-- The broker that a watch is asked of: its token is issued, and it may be cancelled already. -/
def asked (s : BrokerSession) (precancelled : Bool) : Broker :=
  if precancelled then s.broker.issue.cancel s.broker.tokens.next else s.broker.issue

theorem act_watch_ok {taskId : String} {precancelled : Bool} {stream : Nat}
    (h : (s.asked precancelled).watch taskId s.broker.tokens.next = (.ok stream, b)) :
    s.act (.watch taskId precancelled) = (.opened stream, { s with broker := b }) := by
  rw [asked] at h
  rw [act]
  dsimp only
  rw [← Broker.issue, h]

theorem act_watch_error {taskId : String} {precancelled : Bool} {e : ClientError}
    (h : (s.asked precancelled).watch taskId s.broker.tokens.next = (.error e, b)) :
    s.act (.watch taskId precancelled) = (.failed e, { s with broker := b }) := by
  rw [asked] at h
  rw [act]
  dsimp only
  rw [← Broker.issue, h]

namespace Sound

theorem notMem_held (h : s.Sound) (hj : j ∈ s.waiting) : j ∉ s.broker.held := fun hm =>
  (List.nodup_append.1 h.orderly.filed.nodup).2.2 _ hm _ hj rfl

theorem pending_subset {p : Publication} (hp : .inl p ∈ s.publications) (hj : j ∈ p.pending) :
    j ∈ s.waiting :=
  List.mem_flatMap.2 ⟨_, hp, hj⟩

theorem settle_eq (h : s.Sound) : s.settle = s := by
  have hall := h.orderly.advanceAll_waits h.waits []
  rw [List.append_nil] at hall
  rw [settle, hall, advanceAll, List.append_nil]

/-- A session stays sound when the streams stay as they are that publications wait for. -/
theorem of_alike (h : s.Sound) (hb : b.Orderly s.waiting)
    (hstream : ∀ {j ch}, j ∈ s.waiting → s.broker.streams[j]? = some ch →
      s.broker.tokens.isCancelled ch.token = false →
      b.streams[j]? = some ch ∧ b.tokens.isCancelled ch.token = false) :
    Sound { s with broker := b } where
  orderly := hb
  waits hp := (h.waits hp).of_alike fun hi => hstream (pending_subset hp hi)

theorem tokens (h : s.Sound) {tokens : Tokens} (hissued : s.broker.tokens.issued ≤ tokens.issued)
    (hsame : ∀ {token}, token < s.broker.tokens.issued →
      tokens.isCancelled token = s.broker.tokens.isCancelled token)
    (hcancelled : ∀ {token}, tokens.isCancelled token = true → token < tokens.issued) :
    Sound { s with broker := { s.broker with tokens := tokens } } :=
  h.of_alike (h.orderly.of_tokens hissued hsame hcancelled) fun _ hch hc =>
    ⟨hch, (hsame (h.orderly.issued hch)).trans hc⟩

theorem issue (h : s.Sound) : Sound { s with broker := s.broker.issue } :=
  h.tokens (Nat.le_succ _) (fun _ => rfl) fun hc => Nat.lt_succ_of_lt (h.orderly.cancelled hc)

theorem issue_cancel (h : s.Sound) :
    Sound { s with broker := s.broker.issue.cancel s.broker.tokens.next } := by
  have hissued : (s.broker.issue.tokens.cancel s.broker.tokens.next).issued =
      s.broker.tokens.issued + 1 := by
    rw [Tokens.cancel]
    split <;> rfl
  refine h.tokens (hissued ▸ Nat.le_succ _) isCancelled_issue_cancel fun {token} hc => ?_
  rw [Tokens.isCancelled_cancel, Bool.or_eq_true, beq_iff_eq] at hc
  rw [hissued]
  rcases hc with rfl | hc
  · exact Nat.lt_succ_self _
  · exact Nat.lt_succ_of_lt (h.orderly.cancelled hc)

/-- A watch that is refused cancels no stream. -/
theorem streamCancelled_refused (h : s.Sound) (j : Nat) :
    (s.broker.issue.cancel s.broker.tokens.next).streamCancelled j =
      s.broker.streamCancelled j := by
  cases hj : s.broker.streams[j]? with
  | none => rw [streamCancelled_of_none hj, streamCancelled_of_none (b := s.broker.issue.cancel _) hj]
  | some ch =>
    rw [streamCancelled_eq hj, streamCancelled_eq (b := s.broker.issue.cancel _) hj]
    exact isCancelled_issue_cancel (h.orderly.issued hj)

theorem rejections (h : s.Sound) (rejections : List (String × String)) :
    Sound { s with broker := { s.broker with rejections := rejections } } :=
  h.of_alike (h.orderly.of_rejections rejections) fun _ hch hc => ⟨hch, hc⟩

/-- A watch that is opened leaves all streams as they are that are not cancelled. -/
theorem stream_opened (h : s.Sound) {ch : Channel} (hch : s.broker.streams[j]? = some ch)
    (hc : s.broker.tokens.isCancelled ch.token = false) (taskId : String) :
    (s.broker.issue.prune.opened taskId s.broker.tokens.next).streams[j]? = some ch ∧
      (s.broker.issue.prune.opened taskId s.broker.tokens.next).tokens.isCancelled ch.token =
        false := by
  have hissue : s.broker.issue.streamCancelled j = false := (streamCancelled_eq hch).trans hc
  have hstream : s.broker.issue.prune.streams[j]? = some ch :=
    (stream_prune fun _ => hissue).trans hch
  constructor
  · rw [streams_opened, List.getElem?_append_left (List.getElem?_eq_some_iff.1 hstream).1, hstream]
  · rw [tokens_opened, h.issue.orderly.isCancelled_passes (Passes.prune s.broker.issue)
      List.not_mem_nil hch]
    exact hc

theorem opened (h : s.Sound) (taskId : String) :
    Sound { s with broker := s.broker.issue.prune.opened taskId s.broker.tokens.next } := by
  have hissue := h.issue
  have hpasses := Passes.prune s.broker.issue
  refine hissue.of_alike (hissue.orderly.prune.opened_of_lt ?_ (fun {j ch} hj => ?_) taskId)
    fun _ hch hc => h.stream_opened hch hc taskId
  · rw [hpasses.issued]
    exact Nat.lt_succ_self _
  · obtain ⟨ch', hch', same, -⟩ := hpasses.grows.stream_before hj
    rw [same.token]
    exact Nat.ne_of_lt (h.orderly.issued hch')

theorem close (h : s.Sound) (taskId : String) :
    Sound { s with broker := s.broker.close taskId } := by
  refine h.of_alike (h.orderly.close taskId) fun {j ch} hj hch hc => ?_
  have hnot : j ∉ s.broker.liveStreams taskId := fun hm => h.notMem_held hj (mem_held hm)
  exact ⟨(Spares.close s.broker taskId j hnot).trans hch,
    (h.orderly.isCancelled_passes (.close s.broker taskId) hnot hch).trans hc⟩

theorem withoutTask (h : s.Sound) (taskId : String) :
    Sound { s with broker := s.broker.withoutTask taskId } :=
  h.of_alike ((h.orderly.withoutTask taskId).of_subperm (List.sublist_append_left _ _).subperm)
    fun _ hch hc => ⟨hch, hc⟩

/-- What is done with one stream lets publications go on that wait for it. -/
theorem advances (h : s.Sound) (hb : s.broker.Touches i b) :
    Advances b s.publications (advanceAll b s.publications) :=
  advanceAll_advances (hb.orderly h.orderly) fun hp => ⟨(h.waits hp).terminal, (h.waits hp).kept⟩

theorem published (h : s.Sound) (taskId : String) (event : Event) :
    Sound ⟨(s.broker.publication taskId event).2,
      s.publications ++ [(s.broker.publication taskId event).1]⟩ := by
  have hpublication := h.orderly.publication taskId event
  have hsound : Sound { s with broker := (s.broker.publication taskId event).2 } := by
    refine h.of_alike (hpublication.of_subperm (List.sublist_append_left _ _).subperm)
      fun {j ch} hj hch hc => ?_
    have hnot : j ∉ s.broker.liveStreams taskId := fun hm => h.notMem_held hj (mem_held hm)
    refine ⟨(h.orderly.spares_publication taskId event j hnot).trans hch, ?_⟩
    rw [h.orderly.isCancelled_passes (s.broker.publication_passes taskId event) hnot hch, hc]
  refine ⟨?_, fun {p} hp => ?_⟩
  · rw [waiting, List.flatMap_append, List.flatMap_singleton]
    exact hpublication
  · rcases List.mem_append.1 hp with hp | hp
    · exact hsound.waits hp
    · have hp := List.mem_singleton.1 hp
      obtain ⟨-, -, -, he⟩ := (s.broker.publication_outcome taskId event).waiting hp.symm
      obtain ⟨done, todo, hpending, hr⟩ := h.orderly.publication_reaches he taskId
      exact hr.waits_there (hpending ▸ h.orderly.taken taskId) he rfl hp

theorem touched (h : s.Sound) (hb : s.broker.Touches i b) :
    Sound (settle { s with broker := b }) := by
  have hr := h.advances hb
  exact ⟨@Advances.orderly _ _ _ hr [] (hb.orderly h.orderly), hr.waits⟩

/-- A stream that nobody holds is cancelled. -/
theorem streamCancelled_of_gone (h : s.Sound)
    (hgone : ∀ {ch}, s.broker.streams[i]? = some ch → ch.hasStream = false) :
    s.broker.streamCancelled i = true := by
  refine eq_true_of_ne_false fun hc => ?_
  obtain ⟨ch, hi, hc⟩ := exists_stream hc
  exact absurd ((hgone hi).symm.trans (h.orderly.opened hi hc).hasStream) (by decide)

/-- A publication goes as far as it goes at once, and lets no other one go on. -/
theorem step_publish (h : s.Sound) (taskId : String) (event : Event) :
    s.step (.publish taskId event) = (.publication s.publications.length,
      ⟨(s.broker.publication taskId event).2,
        s.publications ++ [(s.broker.publication taskId event).1]⟩) := by
  have hw := h.withoutTask taskId
  have hall : advanceAll (s.broker.withoutTask taskId)
        (s.publications ++ [.inl (s.broker.publish taskId event).1]) =
      (s.publications ++ [(s.broker.publication taskId event).1],
        (s.broker.publication taskId event).2) :=
    hw.orderly.advanceAll_waits hw.waits [.inl (s.broker.publish taskId event).1]
  exact congrArg (fun r : List PublicationState × Broker =>
    (Answer.publication s.publications.length, BrokerSession.mk r.2 r.1)) hall

/-- Every action comes to one of these changes. -/
theorem changes (h : s.Sound) (action : Action) :
    Changes s action (s.step action).1 (s.step action).2 := by
  have hsettled : ∀ {answer s'}, s.act action = (answer, s') → s'.Sound →
      Changes s action answer s' → Changes s action (s.step action).1 (s.step action).2 :=
    fun hact hs' hc => by rwa [step_eq, hact, hs'.settle_eq]
  cases action with
  | watch taskId precancelled =>
    cases precancelled with
    | true =>
      have hcancelled : (s.broker.issue.cancel s.broker.tokens.next).tokens.isCancelled
          s.broker.tokens.next = true := by
        rw [cancel, Tokens.isCancelled_cancel, beq_self_eq_true, Bool.true_or]
      exact hsettled (act_watch_error (watch_cancelled hcancelled taskId)) h.issue_cancel
        (.refused taskId)
    | false =>
      have hfresh : s.broker.issue.tokens.isCancelled s.broker.tokens.next = false :=
        eq_false_of_ne_true fun hc => Nat.lt_irrefl _ (h.orderly.cancelled hc)
      cases hr : s.broker.rejections.find? (·.1 == taskId) with
      | none =>
        exact hsettled (act_watch_ok (watch_opened hfresh hr)) (h.opened taskId)
          (.opened taskId hr)
      | some entry =>
        obtain ⟨task, message⟩ := entry
        obtain rfl : task = taskId := by simpa using List.find?_some hr
        exact hsettled (act_watch_error (watch_rejected hfresh hr)) (h.issue.rejections _)
          (.rejected task message hr)
  | publish taskId event =>
    rw [h.step_publish]
    exact .published taskId event
  | receive i =>
    cases hb : s.broker.receive i with
    | some received =>
      have hact : s.act (.receive i) =
          (.reception received.1, { s with broker := received.2 }) := by rw [act, hb]
      rw [step_eq, hact]
      exact .received i hb
    | none =>
      have hact : s.act (.receive i) = (.missing, s) := by rw [act, hb]
      refine hsettled hact h (.missed i (h.streamCancelled_of_gone fun {ch} hi => ?_) (.inl rfl))
      rw [receive, stream?, hi] at hb
      exact eq_false_of_ne_true fun hstream => by simp [hstream] at hb
  | cancel i =>
    cases hi : s.broker.streams[i]? with
    | none =>
      have hact : s.act (.cancel i) = (.missing, s) := by rw [act, stream?, hi]
      exact hsettled hact h (.missed i (streamCancelled_of_none hi) (.inr (.inl rfl)))
    | some ch =>
      cases hstream : ch.hasStream with
      | false =>
        have hact : s.act (.cancel i) = (.missing, s) := by
          rw [act, stream?, hi]
          dsimp only
          rw [hstream, if_neg Bool.false_ne_true]
        refine hsettled hact h (.missed i (h.streamCancelled_of_gone fun {ch'} hi' => ?_)
          (.inr (.inl rfl)))
        rw [← Option.some.inj (hi.symm.trans hi'), hstream]
      | true =>
        have hact : s.act (.cancel i) =
            (.done, { s with broker := s.broker.cancel ch.token }) := by
          rw [act, stream?, hi]
          dsimp only
          rw [hstream, if_pos rfl]
        rw [step_eq, hact]
        exact .cancelled i hi
  | drop i =>
    cases hi : s.broker.streams[i]? with
    | none =>
      have hact : s.act (.drop i) = (.missing, s) := by rw [act, stream?, hi]
      exact hsettled hact h (.missed i (streamCancelled_of_none hi) (.inr (.inr rfl)))
    | some ch =>
      have hact : s.act (.drop i) =
          (.flag ch.hasStream, { s with broker := s.broker.dropStream i }) := by
        rw [act, stream?, hi]
      rw [step_eq, hact]
      exact .dropped i hi
  | close taskId => exact hsettled rfl (h.close taskId) (.closed taskId)
  | reject taskId message =>
    exact hsettled rfl (h.rejections _) (.rejecting taskId message)

theorem step (h : s.Sound) (action : Action) : (s.step action).2.Sound := by
  have hc := h.changes action
  generalize (s.step action).1 = answer, (s.step action).2 = s' at hc
  cases hc with
  | refused => exact h.issue_cancel
  | rejected => exact h.issue.rejections _
  | opened taskId => exact h.opened taskId
  | published taskId event => exact h.published taskId event
  | received i hb => exact h.touched (touches_receive hb)
  | cancelled i hi => exact h.touched (touches_cancel hi)
  | dropped i => exact h.touched (touches_dropStream _ i)
  | missed => exact h
  | closed taskId => exact h.close taskId
  | rejecting taskId message => exact h.rejections _

theorem new (capacity : Nat) : (BrokerSession.new capacity).Sound where
  orderly := .new capacity
  waits hp := absurd hp List.not_mem_nil

end Sound

end BrokerSession

end TaskWatch
