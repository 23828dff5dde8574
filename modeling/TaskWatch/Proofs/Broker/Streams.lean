import TaskWatch.Broker.Basic

/-!
# What becomes of streams

Streams keep their numbers, tasks and tokens for ever, and a token that is cancelled stays cancelled.
A stream that is not cancelled goes on as it was: both ends are there, and no terminal event waits in
its queue (`Channel.Open`). `Broker.Grows` says this of one change of a broker, and `Broker.Passes`
also which streams it may *touch*: only their queues change, and only their tokens are cancelled.

* `Passes.prune`, `Passes.takeEvents`, `Passes.dropStream`, `Passes.close`, `Passes.advance`: what the
  operations of a broker touch;
* `watch_cancelled`, `watch_rejected`, `watch_opened`: the three answers to a watch;
* `watch_eq_ok`, `watch_eq_error`: what a watch did, from its answer.
-/

namespace TaskWatch

/-- Both ends of a channel are there, and no terminal event is queued. -/
structure Channel.Open (ch : Channel) : Prop where
  hasSink : ch.hasSink = true
  hasStream : ch.hasStream = true
  queue : ∀ e ∈ ch.queue, e.isTerminal = false

/-- The same channel at another time. -/
structure Channel.Same (ch ch' : Channel) : Prop where
  taskId : ch'.taskId = ch.taskId
  token : ch'.token = ch.token
  capacity : ch'.capacity = ch.capacity

namespace Channel.Same

theorem refl (ch : Channel) : Same ch ch := ⟨rfl, rfl, rfl⟩

theorem trans {ch ch' ch'' : Channel} (h : Same ch ch') (h' : Same ch' ch'') : Same ch ch'' :=
  ⟨h'.taskId.trans h.taskId, h'.token.trans h.token, h'.capacity.trans h.capacity⟩

theorem deliver (ch : Channel) (tokens : Tokens) (event : Event) :
    Same ch (ch.deliver tokens event).2 := by
  unfold Channel.deliver
  split
  · exact refl ch
  · split
    · exact ⟨rfl, rfl, rfl⟩
    · split
      · exact refl ch
      · exact ⟨rfl, rfl, rfl⟩

end Channel.Same

namespace Broker

theorem streamCancelled_eq {b : Broker} {i : Nat} {ch : Channel} (hi : b.streams[i]? = some ch) :
    b.streamCancelled i = b.tokens.isCancelled ch.token := by
  rw [streamCancelled, stream?, hi]

/-- A change of a broker that opens no stream. -/
structure Grows (b b' : Broker) : Prop where
  issued : b.tokens.issued ≤ b'.tokens.issued
  cancelled : ∀ {token}, b.tokens.isCancelled token = true → b'.tokens.isCancelled token = true
  length : b'.streams.length = b.streams.length
  stream : ∀ {j : Nat} {ch}, b.streams[j]? = some ch → ∃ ch', b'.streams[j]? = some ch' ∧
    Channel.Same ch ch' ∧ (b'.tokens.isCancelled ch.token = false → ch.Open → ch'.Open)

/-- A change of a broker that touches some streams. -/
structure Passes (touched : List Nat) (b b' : Broker) : Prop where
  capacity : b'.capacity = b.capacity
  issued : b'.tokens.issued = b.tokens.issued
  cancelled : ∀ {token}, b.tokens.isCancelled token = true → b'.tokens.isCancelled token = true
  /-- A token is cancelled only with the stream it belongs to. -/
  cause : ∀ {token}, b'.tokens.isCancelled token = true → b.tokens.isCancelled token = true ∨
    ∃ j ∈ touched, ∃ ch, b.streams[j]? = some ch ∧ ch.token = token
  length : b'.streams.length = b.streams.length
  stream : ∀ {j : Nat} {ch}, b.streams[j]? = some ch → ∃ ch', b'.streams[j]? = some ch' ∧
    Channel.Same ch ch' ∧ (j ∉ touched → ch'.queue = ch.queue) ∧
    (b'.tokens.isCancelled ch.token = false → ch.Open → ch'.Open)

namespace Grows

variable {b b' : Broker}

theorem of_tokens {tokens : Tokens} (hissued : b.tokens.issued ≤ tokens.issued)
    (hcancelled : ∀ {token}, b.tokens.isCancelled token = true → tokens.isCancelled token = true) :
    Grows b { b with tokens := tokens } where
  issued := hissued
  cancelled := hcancelled
  length := rfl
  stream hj := ⟨_, hj, .refl _, fun _ h => h⟩

theorem issue (b : Broker) : Grows b { b with tokens := b.tokens.issue } :=
  of_tokens (Nat.le_succ _) fun h => h

theorem cancelAny (b : Broker) (token : Option Token) :
    Grows b { b with tokens := b.tokens.cancelAny token } := by
  cases token with
  | none => exact of_tokens (Nat.le_refl _) fun h => h
  | some token =>
    refine of_tokens (Nat.le_of_eq ?_) fun {u} h => ?_
    · show b.tokens.issued = (b.tokens.cancel token).issued
      unfold Tokens.cancel
      split <;> rfl
    · show (b.tokens.cancel token).isCancelled u = true
      rw [Tokens.isCancelled_cancel, h, Bool.or_true]

theorem trans {b'' : Broker} (h : Grows b b') (h' : Grows b' b'') : Grows b b'' where
  issued := Nat.le_trans h.issued h'.issued
  cancelled hc := h'.cancelled (h.cancelled hc)
  length := h'.length.trans h.length
  stream hj := by
    obtain ⟨ch₁, hj₁, same₁, open₁⟩ := h.stream hj
    obtain ⟨ch₂, hj₂, same₂, open₂⟩ := h'.stream hj₁
    refine ⟨ch₂, hj₂, same₁.trans same₂, fun hc ho => open₂ (same₁.token ▸ hc) (open₁ ?_ ho)⟩
    exact eq_false_of_ne_true fun e => absurd ((h'.cancelled e).symm.trans hc) (by decide)

/-- A stream that is there now was there before. -/
theorem stream_before (h : Grows b b') {j : Nat} {ch' : Channel}
    (hj : b'.streams[j]? = some ch') : ∃ ch, b.streams[j]? = some ch ∧ Channel.Same ch ch' ∧
      (b'.tokens.isCancelled ch.token = false → ch.Open → ch'.Open) := by
  have hlt : j < b.streams.length := h.length ▸ (List.getElem?_eq_some_iff.1 hj).1
  obtain ⟨ch₁, hj₁, same, hopen⟩ := h.stream (List.getElem?_eq_getElem hlt)
  obtain rfl : ch₁ = ch' := Option.some.inj (hj₁.symm.trans hj)
  exact ⟨_, List.getElem?_eq_getElem hlt, same, hopen⟩

theorem uncancelled (h : Grows b b') {token : Token}
    (hc : b'.tokens.isCancelled token = false) : b.tokens.isCancelled token = false :=
  eq_false_of_ne_true fun hc' => absurd ((h.cancelled hc').symm.trans hc) (by decide)

end Grows

namespace Passes

variable {touched : List Nat} {b b' b'' : Broker}

theorem grows (h : Passes touched b b') : Grows b b' where
  issued := Nat.le_of_eq h.issued.symm
  cancelled := h.cancelled
  length := h.length
  stream hj := by
    obtain ⟨ch', hj', same, -, hopen⟩ := h.stream hj
    exact ⟨ch', hj', same, hopen⟩

theorem of_eq (hcapacity : b'.capacity = b.capacity) (htokens : b'.tokens = b.tokens)
    (hstreams : b'.streams = b.streams) (touched : List Nat) : Passes touched b b' where
  capacity := hcapacity
  issued := by rw [htokens]
  cancelled h := by rwa [htokens]
  cause h := .inl (by rwa [htokens] at h)
  length := by rw [hstreams]
  stream hj := ⟨_, hstreams ▸ hj, .refl _, fun _ => rfl, fun _ h => h⟩

theorem refl (touched : List Nat) (b : Broker) : Passes touched b b := of_eq rfl rfl rfl touched

theorem trans (h : Passes touched b b') (h' : Passes touched b' b'') : Passes touched b b'' where
  capacity := h'.capacity.trans h.capacity
  issued := h'.issued.trans h.issued
  cancelled hc := h'.cancelled (h.cancelled hc)
  cause hc := by
    rcases h'.cause hc with hc | ⟨j, hj, ch', hch', rfl⟩
    · exact h.cause hc
    · obtain ⟨ch, hch, same, -⟩ := h.grows.stream_before hch'
      exact .inr ⟨j, hj, ch, hch, same.token.symm⟩
  length := h'.length.trans h.length
  stream {j ch} hj := by
    obtain ⟨ch₁, hj₁, same₁, queue₁, open₁⟩ := h.stream hj
    obtain ⟨ch₂, hj₂, same₂, queue₂, open₂⟩ := h'.stream hj₁
    refine ⟨ch₂, hj₂, same₁.trans same₂, fun hn => (queue₂ hn).trans (queue₁ hn), fun hc ho => ?_⟩
    exact open₂ (same₁.token ▸ hc) (open₁ (h'.grows.uncancelled hc) ho)

theorem mono {touched' : List Nat} (h : Passes touched b b') (hsub : touched ⊆ touched') :
    Passes touched' b b' where
  capacity := h.capacity
  issued := h.issued
  cancelled := h.cancelled
  cause hc := (h.cause hc).imp_right fun ⟨j, hj, hch⟩ => ⟨j, hsub hj, hch⟩
  length := h.length
  stream hj := by
    obtain ⟨ch', hj', same, queue, hopen⟩ := h.stream hj
    exact ⟨ch', hj', same, fun hn => queue fun hm => hn (hsub hm), hopen⟩

/-- One stream changes, and its token may be cancelled. -/
theorem of_set {i : Nat} {ch ch' : Channel} (hi : b.streams[i]? = some ch)
    (hsame : Channel.Same ch ch') (hcapacity : b'.capacity = b.capacity)
    (htokens : b'.tokens = b.tokens ∨ i ∈ touched ∧ b'.tokens = b.tokens.cancel ch.token)
    (hstreams : b'.streams = b.streams.set i ch')
    (hqueue : i ∉ touched → ch'.queue = ch.queue)
    (hopen : b'.tokens.isCancelled ch.token = false → ch.Open → ch'.Open) :
    Passes touched b b' := by
  have hlt := (List.getElem?_eq_some_iff.1 hi).1
  refine ⟨hcapacity, ?_, fun {token} hc => ?_, fun {token} hc => ?_, ?_, fun {j ch₁} hj => ?_⟩
  · rcases htokens with e | ⟨-, e⟩
    · rw [e]
    · rw [e, Tokens.cancel]
      split <;> rfl
  · rcases htokens with e | ⟨-, e⟩
    · rwa [e]
    · rw [e, Tokens.isCancelled_cancel, hc, Bool.or_true]
  · rcases htokens with e | ⟨hm, e⟩
    · exact .inl (by rwa [e] at hc)
    · rw [e, Tokens.isCancelled_cancel, Bool.or_eq_true, beq_iff_eq] at hc
      rcases hc with hc | hc
      · exact .inr ⟨i, hm, ch, hi, hc.symm⟩
      · exact .inl hc
  · rw [hstreams, List.length_set]
  · rw [hstreams]
    by_cases hij : i = j
    · subst hij
      obtain rfl : ch = ch₁ := Option.some.inj (hi.symm.trans hj)
      exact ⟨ch', by simp [hlt], hsame, hqueue, hopen⟩
    · exact ⟨ch₁, by rw [List.getElem?_set_ne hij, hj], .refl _, fun _ => rfl, fun _ h => h⟩

theorem foldl {f : Broker → Nat → Broker} (hf : ∀ b i, Passes [i] b (f b i)) (b : Broker)
    (is : List Nat) : Passes is b (is.foldl f b) := by
  induction is generalizing b with
  | nil => exact refl [] b
  | cons i is ih =>
    exact ((hf b i).mono (by simp)).trans ((ih (f b i)).mono (List.subset_cons_self i is))

/-! ## Operations on one stream -/

theorem closeStream (b : Broker) (i : Nat) : Passes [i] b (b.closeStream i) := by
  unfold Broker.closeStream
  split
  · next ch hi =>
    have same : Channel.Same ch ch.close.dropSink := ⟨rfl, rfl, rfl⟩
    exact of_set hi same rfl (.inr ⟨List.mem_singleton_self i, rfl⟩) rfl (fun _ => rfl)
      fun hc _ => by simp [cancel, setStream, Tokens.isCancelled_cancel] at hc
  · exact refl _ b

theorem dropStream (b : Broker) (i : Nat) : Passes [i] b (b.dropStream i) := by
  unfold Broker.dropStream
  split
  · next ch hi =>
    have same : Channel.Same ch ch.dropStream := ⟨rfl, rfl, rfl⟩
    exact of_set hi same rfl (.inr ⟨List.mem_singleton_self i, rfl⟩) rfl (fun _ => rfl)
      fun hc _ => by simp [cancel, setStream, Tokens.isCancelled_cancel] at hc
  · exact refl _ b

theorem takeEvents (b : Broker) (i : Nat) : Passes [i] b (b.takeEvents i).2.2 := by
  unfold Broker.takeEvents
  split
  · next ch hi =>
    have same : Channel.Same ch { ch with queue := [] } := ⟨rfl, rfl, rfl⟩
    exact of_set hi same rfl (.inl rfl) rfl (fun hn => absurd (List.mem_singleton_self i) hn)
      fun _ ho => ⟨ho.hasSink, ho.hasStream, fun _ hm => absurd hm List.not_mem_nil⟩
  · exact refl _ b

/-- The producer of a cancelled stream is let go. -/
theorem dropSink {i : Nat} (h : b.streamCancelled i = true) : Passes [] b (b.dropSink i) := by
  unfold Broker.dropSink
  split
  · next ch hi =>
    have same : Channel.Same ch ch.dropSink := ⟨rfl, rfl, rfl⟩
    refine of_set hi same rfl (.inl rfl) rfl (fun _ => rfl) fun hc _ => ?_
    rw [streamCancelled_eq hi] at h
    exact absurd (hc.symm.trans h) (by decide)
  · exact refl _ b

/-- A stream takes an event that does not end it. -/
theorem deliver {i : Nat} {ch : Channel} {event : Event} (hi : b.streams[i]? = some ch)
    (he : event.isTerminal = false) :
    Passes [i] b (b.setStream i (ch.deliver b.tokens event).2) := by
  refine of_set hi (.deliver ch b.tokens event) rfl (.inl rfl) rfl
    (fun hn => absurd (List.mem_singleton_self i) hn) fun _ ho => ?_
  unfold Channel.deliver
  split
  · exact ho
  · split
    · refine ⟨ho.hasSink, ho.hasStream, fun e hm => ?_⟩
      rcases List.mem_append.1 hm with hm | hm
      · exact ho.queue e hm
      · exact List.mem_singleton.1 hm ▸ he
    · rw [he]
      exact ⟨ho.hasSink, ho.hasStream, ho.queue⟩

/-- A stream changes for the last time, and is closed. -/
theorem setStream_closeStream {i : Nat} {ch ch' : Channel} (hi : b.streams[i]? = some ch)
    (same : Channel.Same ch ch') : Passes [i] b ((b.setStream i ch').closeStream i) := by
  have hlt := (List.getElem?_eq_some_iff.1 hi).1
  have closed : (b.setStream i ch').closeStream i =
      (b.setStream i ch'.close.dropSink).cancel ch.token := by
    simp [Broker.closeStream, setStream, stream?, hlt, same.token]
  have same' : Channel.Same ch ch'.close.dropSink := same.trans ⟨rfl, rfl, rfl⟩
  rw [closed]
  exact of_set hi same' rfl (.inr ⟨List.mem_singleton_self i, rfl⟩) rfl
    (fun hn => absurd (List.mem_singleton_self i) hn)
    fun hc _ => by simp [cancel, setStream, Tokens.isCancelled_cancel] at hc

/-- A stream takes the event that ends it. -/
theorem deliver_closeStream {i : Nat} {ch : Channel} (event : Event)
    (hi : b.streams[i]? = some ch) :
    Passes [i] b ((b.setStream i (ch.deliver b.tokens event).2).closeStream i) :=
  setStream_closeStream hi (.deliver ch b.tokens event)

/-! ## Operations on many streams -/

theorem withoutTask (b : Broker) (taskId : String) : Passes [] b (b.withoutTask taskId) :=
  of_eq (by rfl) (by rfl) (by rfl) []

theorem addLive (b : Broker) (taskId : String) (streams : List Nat) :
    Passes [] b (b.addLive taskId streams) := by
  unfold Broker.addLive
  split
  · exact refl [] b
  · exact (withoutTask b taskId).trans
      (of_eq (by rfl) (by rfl) (by rfl) [])

theorem prune (b : Broker) : Passes [] b b.prune := by
  have dropped : ∀ (gone : List Nat) (b : Broker), (∀ i ∈ gone, b.streamCancelled i = true) →
      Passes [] b (gone.foldl Broker.dropSink b) := by
    intro gone
    induction gone with
    | nil => exact fun b _ => refl [] b
    | cons i gone ih =>
      intro b hgone
      have first : Passes [] b (b.dropSink i) := dropSink (hgone i (List.mem_cons_self ..))
      refine first.trans (ih _ fun j hj => ?_)
      have hj := hgone j (List.mem_cons_of_mem i hj)
      cases hch : b.streams[j]? with
      | none =>
        rw [streamCancelled, stream?,
          List.getElem?_eq_none_iff.2 (first.length ▸ List.getElem?_eq_none_iff.1 hch)]
      | some ch =>
        obtain ⟨ch', hch', same, -⟩ := first.stream hch
        rw [streamCancelled_eq hch] at hj
        rw [streamCancelled_eq hch', same.token]
        exact first.cancelled hj
  have hgone : ∀ i ∈ (b.live.flatMap (·.2)).filter b.streamCancelled, b.streamCancelled i = true :=
    fun i hi => (List.mem_filter.1 hi).2
  unfold Broker.prune
  refine trans ?_ (dropped _ _ hgone)
  exact of_eq (by rfl) (by rfl) (by rfl) []

theorem close (b : Broker) (taskId : String) :
    Passes (b.liveStreams taskId) b (b.close taskId) :=
  ((withoutTask b taskId).mono (List.nil_subset _)).trans (foldl closeStream _ _)

theorem advance (b : Broker) (p : Publication) (pending : List Nat) :
    Passes pending b (Broker.advance b p pending).2 := by
  induction pending generalizing b p with
  | nil => exact addLive b p.taskId p.kept
  | cons i rest ih =>
    have tail : ∀ {b b' : Broker}, Passes rest b b' → Passes (i :: rest) b b' := fun h =>
      h.mono (List.subset_cons_self i rest)
    have head : ∀ {b b' : Broker}, Passes [i] b b' → Passes (i :: rest) b b' := fun h =>
      h.mono (by simp)
    rw [Broker.advance]
    split
    · exact tail (ih b p)
    · next ch hi =>
      split
      · exact refl _ b
      · exact (head (closeStream b i)).trans (tail (ih _ p))
      · next ch' hrefused hwaiting hdelivered =>
        obtain rfl : ch' = (ch.deliver b.tokens p.event).2 := by rw [hdelivered]
        dsimp only
        split
        · exact (head (deliver_closeStream p.event hi)).trans (tail (ih _ _))
        · next he =>
          exact (head (deliver hi (eq_false_of_ne_true he))).trans (tail (ih _ _))

end Passes

/-- The queue of a stream that is not touched stays as it is. -/
theorem Passes.queue {touched : List Nat} {b b' : Broker} (h : Passes touched b b') {j : Nat}
    {ch : Channel} (hj : b.streams[j]? = some ch) (hnot : j ∉ touched) :
    ∃ ch', b'.streams[j]? = some ch' ∧ ch'.queue = ch.queue := by
  obtain ⟨ch', hj', -, hqueue, -⟩ := h.stream hj
  exact ⟨ch', hj', hqueue hnot⟩

theorem isCancelled_dropStream {b : Broker} {i : Nat} {ch : Channel}
    (hi : b.streams[i]? = some ch) : (b.dropStream i).tokens.isCancelled ch.token = true := by
  rw [dropStream, stream?, hi]
  show (b.tokens.cancel ch.token).isCancelled ch.token = true
  rw [Tokens.isCancelled_cancel, beq_self_eq_true, Bool.true_or]

/-! ## Opening a watch -/

/-- The broker with one more stream, which is live. -/
def opened (b : Broker) (taskId : String) (token : Token) : Broker :=
  Broker.addLive { b with streams := b.streams ++ [Channel.new taskId b.capacity token] } taskId
    [b.streams.length]

theorem streams_addLive (b : Broker) (taskId : String) (streams : List Nat) :
    (b.addLive taskId streams).streams = b.streams := by
  unfold addLive
  split <;> rfl

theorem tokens_addLive (b : Broker) (taskId : String) (streams : List Nat) :
    (b.addLive taskId streams).tokens = b.tokens := by
  unfold addLive
  split <;> rfl

theorem streams_opened (b : Broker) (taskId : String) (token : Token) :
    (b.opened taskId token).streams =
      b.streams ++ [Channel.new taskId b.capacity token] := by
  unfold opened
  rw [streams_addLive]

theorem tokens_opened (b : Broker) (taskId : String) (token : Token) :
    (b.opened taskId token).tokens = b.tokens := by
  unfold opened
  rw [tokens_addLive]

theorem grows_opened (b : Broker) (taskId : String) (token : Token) :
    Grows { b with streams := b.streams ++ [Channel.new taskId b.capacity token] }
      (b.opened taskId token) := by
  unfold opened
  exact (Passes.addLive _ taskId _).grows

/-- A watch that is cancelled already is not opened, and leaves the broker as it is. -/
theorem watch_cancelled {b : Broker} {token : Token} (h : b.tokens.isCancelled token = true)
    (taskId : String) : b.watch taskId token = (.error .cancelled, b) := by
  rw [watch, if_pos h]

/-- A rejection is answered with its message, and then it is used up. -/
theorem watch_rejected {b : Broker} {taskId message : String} {token : Token}
    (h : b.tokens.isCancelled token = false)
    (hr : b.rejections.find? (·.1 == taskId) = some (taskId, message)) :
    b.watch taskId token = (.error (.daemon message),
      { b with rejections := b.rejections.filter (·.1 != taskId) }) := by
  rw [watch, h, if_neg Bool.false_ne_true, hr]

theorem watch_opened {b : Broker} {taskId : String} {token : Token}
    (h : b.tokens.isCancelled token = false)
    (hr : b.rejections.find? (·.1 == taskId) = none) :
    b.watch taskId token = (.ok b.streams.length, b.prune.opened taskId token) := by
  rw [watch, h, if_neg Bool.false_ne_true, hr, ← (Passes.prune b).length]
  rfl

theorem watch_eq_ok {b b' : Broker} {taskId : String} {token : Token} {j : Nat}
    (h : b.watch taskId token = (.ok j, b')) :
    b.tokens.isCancelled token = false ∧ j = b.prune.streams.length ∧
      b' = b.prune.opened taskId token := by
  unfold watch at h
  split at h
  · cases h
  · next hc =>
    split at h
    · cases h
    · obtain ⟨hj, rfl⟩ := Prod.mk.inj h
      obtain rfl := Except.ok.inj hj
      exact ⟨eq_false_of_ne_true hc, rfl, rfl⟩

theorem watch_eq_error {b b' : Broker} {taskId : String} {token : Token} {e : ClientError}
    (h : b.watch taskId token = (.error e, b')) :
    ∃ rejections, b' = { b with rejections := rejections } := by
  unfold watch at h
  split at h
  · obtain ⟨-, rfl⟩ := Prod.mk.inj h
    exact ⟨b.rejections, rfl⟩
  · split at h
    · obtain ⟨-, rfl⟩ := Prod.mk.inj h
      exact ⟨_, rfl⟩
    · cases h

end Broker

end TaskWatch
