import TaskWatch.Proofs.Broker.Subscribers

/-!
# What a publication hands out

A publication comes to the streams it has taken one after the other. Those that are cancelled refuse
the event and are closed; the others take it.

* `Hands`, `Orderly.advance_hands`: an event that does not end its task is handed to all of them at
  once, or dropped where the queue is full, and all of them stay live;
* `Reaches`, `Orderly.advance_reaches`: a terminal event ends them, up to the first whose queue is
  full: the publication waits there.
-/

namespace TaskWatch

namespace Channel

/-- The channel when an event that does not end it was handed to it. -/
def handed (ch : Channel) (event : Event) : Channel :=
  if ch.isFull then { ch with dropped := ch.dropped + 1 } else { ch with queue := ch.queue ++ [event] }

/-- The channel when the event that ends it was handed to it. -/
def concluded (ch : Channel) (event : Event) : Channel :=
  Channel.dropSink (close { ch with queue := ch.queue ++ [event] })

theorem Bounded.deliver {ch : Channel} (h : ch.Bounded) (tokens : Tokens) (event : Event) :
    (ch.deliver tokens event).2.Bounded := by
  unfold Channel.deliver
  split
  · exact h
  · split
    · next hroom =>
      have hlt : ch.queue.length < ch.capacity := by simpa [isFull] using hroom
      refine ⟨h.room, ?_⟩
      rw [List.length_append]
      exact hlt
    · split
      · exact h
      · exact ⟨h.room, h.queue⟩

end Channel

namespace Broker

variable {b b' : Broker} {p : Publication} {pending pending' rest done todo : List Nat} {i j n : Nat}
  {ch : Channel} {r : PublicationState × Broker}

theorem ne_of_uncancelled (hi : b.streamCancelled i = true) (hj : b.streams[j]? = some ch)
    (hc : b.tokens.isCancelled ch.token = false) : j ≠ i := by
  rintro rfl
  rw [streamCancelled_eq hj] at hi
  exact absurd (hi.symm.trans hc) (by decide)

theorem tokens_closeStream (hi : b.streamCancelled i = true) :
    (b.closeStream i).tokens = b.tokens := by
  unfold closeStream
  split
  · next ch hch =>
    rw [streamCancelled, hch] at hi
    exact if_pos hi
  · rfl

theorem Bounded.advance (h : b.Bounded) (p : Publication) (pending : List Nat) :
    (b.advance p pending).2.Bounded := by
  induction pending generalizing b p with
  | nil =>
    intro ch hm
    rw [Broker.advance, streams_addLive] at hm
    exact h ch hm
  | cons i rest ih =>
    rw [Broker.advance]
    split
    · exact ih h p
    · next ch hi =>
      have hch := (h.getElem? hi).deliver b.tokens p.event
      split
      · exact h
      · exact ih (h.closeStream i) p
      · next ch' _ _ hdelivered =>
        rw [hdelivered] at hch
        have hset := h.setStream hch i
        dsimp only
        split
        · exact ih (hset.closeStream i) _
        · exact ih hset _

namespace Orderly

theorem of_subperm (h : b.Orderly pending) (hsub : pending'.Subperm pending) :
    b.Orderly pending' :=
  { h with
    filed := h.filed.of_subperm (Passes.refl [] b).grows ((List.subperm_append_left _).2 hsub)
      h.filed.live }

theorem tail (h : b.Orderly (i :: rest)) : b.Orderly rest :=
  h.of_subperm (List.sublist_cons_self i rest).subperm

theorem notMem_right (h : b.Orderly (done ++ todo)) (hj : j ∈ done) : j ∉ todo := fun hm =>
  (List.nodup_append.1 (List.nodup_append.1 h.filed.nodup).2.1).2.2 _ hj _ hm rfl

theorem head_notMem (h : b.Orderly (i :: rest)) : i ∉ rest :=
  (show b.Orderly ([i] ++ rest) from h).notMem_right (List.mem_singleton_self i)

/-- A broker stays in order when the stream that a publication has come to is touched. -/
theorem touch (h : b.Orderly (i :: rest)) (hp : Passes [i] b b') (hlive : b'.live = b.live)
    (hbounded : b'.Bounded) : b'.Orderly rest :=
  h.tail.passes hp (h.keyed.of_live hlive) (h.tail.filed.grows hp.grows hlive) hbounded

theorem filter_eq (h : b.Orderly (i :: rest)) (hp : Passes [i] b b') :
    rest.filter (!b'.streamCancelled ·) = rest.filter (!b.streamCancelled ·) := by
  refine List.filter_congr fun j hj => ?_
  have hne : j ∉ [i] := fun hm => h.head_notMem (List.mem_singleton.1 hm ▸ hj)
  rw [h.streamCancelled_passes hp hne]

end Orderly

/-! ## Events that do not end a task -/

/-- An event was handed to all streams that are not cancelled, and they are given back. -/
structure Hands (b : Broker) (p : Publication) (pending : List Nat)
    (r : PublicationState × Broker) : Prop where
  state : r.1 = .inr (p.delivered + (pending.filter (!b.streamCancelled ·)).length)
  live : r.2.live = (b.addLive p.taskId (p.kept ++ pending.filter (!b.streamCancelled ·))).live
  tokens : r.2.tokens = b.tokens
  handed : ∀ {j ch}, j ∈ pending → b.streams[j]? = some ch → b.tokens.isCancelled ch.token = false →
    r.2.streams[j]? = some (ch.handed p.event)
  spares : Spares pending b r.2

namespace Hands

/-- The publication passes over a stream that is cancelled. -/
theorem skip (hi : b.streamCancelled i = true) (h : b.Orderly (i :: rest)) (hp : Passes [i] b b')
    (hs : Spares [i] b b') (hlive : b'.live = b.live) (htokens : b'.tokens = b.tokens)
    (hr : Hands b' p rest r) : Hands b p (i :: rest) r := by
  have hfilter : (i :: rest).filter (!b.streamCancelled ·) = rest.filter (!b.streamCancelled ·) :=
    List.filter_cons_of_neg (by simpa using hi)
  refine ⟨?_, ?_, hr.tokens.trans htokens, fun {j ch} hj hch hc => ?_, ?_⟩
  · rw [hfilter, hr.state, h.filter_eq hp]
  · rw [hfilter, hr.live, live_addLive hlive, h.filter_eq hp]
  · have hne := ne_of_uncancelled hi hch hc
    refine hr.handed ((List.mem_cons.1 hj).resolve_left hne) ?_ (htokens ▸ hc)
    rw [hs j fun hm => hne (List.mem_singleton.1 hm), hch]
  · exact (hs.mono (by simp)).trans (hr.spares.mono (List.subset_cons_self i rest))

/-- A stream takes the event. -/
theorem take (hi : b.streams[i]? = some ch) (hc : b.tokens.isCancelled ch.token = false)
    (h : b.Orderly (i :: rest)) (hp : Passes [i] b (b.setStream i (ch.handed p.event)))
    (hr : Hands (b.setStream i (ch.handed p.event))
      { p with delivered := p.delivered + 1, kept := p.kept ++ [i] } rest r) :
    Hands b p (i :: rest) r := by
  have hlt := (List.getElem?_eq_some_iff.1 hi).1
  have hs := Spares.setStream b i (ch.handed p.event)
  have hfilter : (i :: rest).filter (!b.streamCancelled ·) =
      i :: rest.filter (!b.streamCancelled ·) := by
    rw [List.filter_cons_of_pos]
    rw [streamCancelled_eq hi, hc]
    rfl
  refine ⟨?_, ?_, hr.tokens, fun {j ch'} hj hch hc' => ?_, ?_⟩
  · rw [hfilter, hr.state, h.filter_eq hp, List.length_cons]
    dsimp only
    rw [Nat.add_assoc, Nat.add_comm 1]
  · have hlive : (b.setStream i (ch.handed p.event)).live = b.live := rfl
    rw [hfilter, hr.live, live_addLive hlive, h.filter_eq hp, List.append_assoc]
    rfl
  · by_cases hij : i = j
    · subst hij
      obtain rfl : ch = ch' := Option.some.inj (hi.symm.trans hch)
      rw [hr.spares i h.head_notMem]
      exact List.getElem?_set_self hlt
    · refine hr.handed ((List.mem_cons.1 hj).resolve_left (Ne.symm hij)) ?_ hc'
      rw [hs j fun hm => hij (List.mem_singleton.1 hm).symm, hch]
  · exact (hs.mono (by simp)).trans (hr.spares.mono (List.subset_cons_self i rest))

end Hands

/-- An event that does not end its task is handed out at once. -/
theorem Orderly.advance_hands (h : b.Orderly pending) (he : p.event.isTerminal = false) :
    Hands b p pending (b.advance p pending) := by
  induction pending generalizing b p with
  | nil =>
    refine ⟨rfl, ?_, tokens_addLive b _ _, fun hj => absurd hj List.not_mem_nil, fun j _ => ?_⟩
    · rw [List.filter_nil, List.append_nil]
      rfl
    · rw [advance, streams_addLive]
  | cons i rest ih =>
    rw [advance]
    split
    · next hi =>
      exact .skip (streamCancelled_of_none hi) h (.refl _ b) (fun _ _ => rfl) rfl rfl
        (ih h.tail he)
    · next ch hi =>
      cases hc : b.tokens.isCancelled ch.token with
      | true =>
        have hrefused : ch.deliver b.tokens p.event = (.refused, ch) := by
          rw [Channel.deliver, hc]
          rfl
        have hcancelled := (streamCancelled_eq hi).trans hc
        rw [hrefused]
        exact .skip hcancelled h (.closeStream b i) (.closeStream b i) (live_closeStream b i)
          (tokens_closeStream hcancelled)
          (ih (h.touch (.closeStream b i) (live_closeStream b i) (h.bounded.closeStream i)) he)
      | false =>
        have hhanded : ch.deliver b.tokens p.event =
            (if ch.isFull then .dropped else .queued, ch.handed p.event) := by
          rw [Channel.deliver_eq hc (h.opened hi hc).hasStream, he, Channel.handed]
          cases ch.isFull <;> rfl
        have hp := Passes.deliver hi he
        have hb := h.bounded.setStream ((h.bounded.getElem? hi).deliver b.tokens p.event) i
        rw [hhanded] at hp hb ⊢
        have hrest := ih (p := { p with delivered := p.delivered + 1, kept := p.kept ++ [i] })
          (h.touch hp rfl hb) he
        have htake := Hands.take hi hc h hp hrest
        cases ch.isFull <;> simpa only [he, if_true, Bool.false_eq_true, if_false] using htake

/-! ## Terminal events -/

/-- A terminal event has come to all streams of `done`, which it ends if they were not cancelled
before, and it waits at the first of `todo`. -/
structure Reached (b : Broker) (p : Publication) (done todo : List Nat) (state : PublicationState)
    (b' : Broker) : Prop where
  ends : todo = [] → state = .inr (p.delivered + (done.filter (!b.streamCancelled ·)).length)
  waits : ∀ {i rest}, todo = i :: rest → state = .inl { p with
      pending := i :: rest, delivered := p.delivered + (done.filter (!b.streamCancelled ·)).length } ∧
    ∃ ch, b.streams[i]? = some ch ∧ b.tokens.isCancelled ch.token = false ∧ ch.isFull = true
  ended : ∀ {j ch}, j ∈ done → b.streams[j]? = some ch → b.tokens.isCancelled ch.token = false →
    b'.streams[j]? = some (ch.concluded p.event) ∧ b'.tokens.isCancelled ch.token = true

/-- A publication of a terminal event has gone as far as it goes, and has touched no other streams. -/
structure Reaches (b : Broker) (p : Publication) (done todo : List Nat)
    (r : PublicationState × Broker) : Prop extends Reached b p done todo r.1 r.2 where
  live : r.2.live = b.live
  passes : Passes done b r.2
  spares : Spares done b r.2

namespace Reaches

/-- The publication passes over a stream that is cancelled. -/
theorem skip (hi : b.streamCancelled i = true) (h : b.Orderly (i :: (done ++ todo)))
    (hp : Passes [i] b b') (hs : Spares [i] b b') (hlive : b'.live = b.live)
    (htokens : b'.tokens = b.tokens) (hr : Reaches b' p done todo r) :
    Reaches b p (i :: done) todo r := by
  have hnot := h.head_notMem
  have hdone : b.Orderly (i :: done) :=
    h.of_subperm ((List.sublist_append_left done todo).cons_cons i).subperm
  have hfilter : (i :: done).filter (!b.streamCancelled ·) = done.filter (!b.streamCancelled ·) :=
    List.filter_cons_of_neg (by simpa using hi)
  refine ⟨⟨fun ht => ?_, fun ht => ?_, fun {j ch} hj hch hc => ?_⟩, hr.live.trans hlive, ?_, ?_⟩
  · rw [hfilter, hr.ends ht, hdone.filter_eq hp]
  · obtain ⟨hstate, ch, hch, hc, hfull⟩ := hr.waits ht
    refine ⟨by rw [hfilter, hstate, hdone.filter_eq hp], ch, ?_, htokens ▸ hc, hfull⟩
    rw [← hs, hch]
    intro hm
    exact hnot (List.mem_append_right _ (ht ▸ List.mem_singleton.1 hm ▸ List.mem_cons_self ..))
  · have hne := ne_of_uncancelled hi hch hc
    refine hr.ended ((List.mem_cons.1 hj).resolve_left hne) ?_ (htokens ▸ hc)
    rw [hs j fun hm => hne (List.mem_singleton.1 hm), hch]
  · exact (hp.mono (by simp)).trans (hr.passes.mono (List.subset_cons_self i done))
  · exact (hs.mono (by simp)).trans (hr.spares.mono (List.subset_cons_self i done))

/-- A stream takes the event, which ends it. -/
theorem take (hi : b.streams[i]? = some ch) (hc : b.tokens.isCancelled ch.token = false)
    (h : b.Orderly (i :: (done ++ todo))) (hp : Passes [i] b b') (hs : Spares [i] b b')
    (hlive : b'.live = b.live) (hended : b'.streams[i]? = some (ch.concluded p.event))
    (hcancelled : b'.tokens.isCancelled ch.token = true)
    (hr : Reaches b' { p with delivered := p.delivered + 1 } done todo r) :
    Reaches b p (i :: done) todo r := by
  have hnot := h.head_notMem
  have hdone : b.Orderly (i :: done) :=
    h.of_subperm ((List.sublist_append_left done todo).cons_cons i).subperm
  have hcount : p.delivered + ((i :: done).filter (!b.streamCancelled ·)).length =
      p.delivered + 1 + (done.filter (!b'.streamCancelled ·)).length := by
    have hkept : (!b.streamCancelled i) = true := by
      rw [streamCancelled_eq hi, hc]
      rfl
    have hfilter : (i :: done).filter (!b.streamCancelled ·) =
        i :: done.filter (!b.streamCancelled ·) := List.filter_cons_of_pos hkept
    rw [hfilter, List.length_cons, hdone.filter_eq hp, Nat.add_assoc, Nat.add_comm 1]
  refine ⟨⟨fun ht => ?_, fun {i' rest} ht => ?_, fun {j ch'} hj hch hc' => ?_⟩,
    hr.live.trans hlive, ?_, ?_⟩
  · rw [hcount, hr.ends ht]
  · obtain ⟨hstate, ch', hch', hc', hfull⟩ := hr.waits ht
    have hne : i' ∉ [i] := fun hm =>
      hnot (List.mem_append_right _ (ht ▸ List.mem_singleton.1 hm ▸ List.mem_cons_self ..))
    rw [hs i' hne] at hch'
    exact ⟨by rw [hcount, hstate], ch', hch', h.isCancelled_passes hp hne hch' ▸ hc', hfull⟩
  · by_cases hij : i = j
    · subst hij
      obtain rfl : ch = ch' := Option.some.inj (hi.symm.trans hch)
      have hrest : i ∉ done := fun hm => hnot (List.mem_append_left _ hm)
      exact ⟨(hr.spares i hrest).trans hended, hr.passes.cancelled hcancelled⟩
    · have hne : j ∉ [i] := fun hm => hij (List.mem_singleton.1 hm).symm
      refine hr.ended ((List.mem_cons.1 hj).resolve_left (Ne.symm hij)) ?_ ?_
      · rw [hs j hne, hch]
      · rw [h.isCancelled_passes hp hne hch, hc']
  · exact (hp.mono (by simp)).trans (hr.passes.mono (List.subset_cons_self i done))
  · exact (hs.mono (by simp)).trans (hr.spares.mono (List.subset_cons_self i done))

end Reaches

/-- A terminal event ends the streams up to the first whose queue is full. -/
theorem Orderly.advance_reaches (h : b.Orderly pending) (he : p.event.isTerminal = true)
    (hk : p.kept = []) :
    ∃ done todo, pending = done ++ todo ∧ Reaches b p done todo (b.advance p pending) := by
  induction pending generalizing b p with
  | nil =>
    refine ⟨[], [], rfl, ⟨fun _ => rfl, fun ht => absurd ht (List.cons_ne_nil _ _).symm,
      fun hj => absurd hj List.not_mem_nil⟩, ?_, .addLive b p.taskId p.kept, fun j _ => ?_⟩
    · rw [advance, hk]
      rfl
    · rw [advance, streams_addLive]
  | cons i rest ih =>
    rw [advance]
    split
    · next hi =>
      obtain ⟨done, todo, rfl, hr⟩ := ih h.tail he hk
      exact ⟨i :: done, todo, rfl, .skip (streamCancelled_of_none hi) h (.refl _ b)
        (fun _ _ => rfl) rfl rfl hr⟩
    · next ch hi =>
      cases hc : b.tokens.isCancelled ch.token with
      | true =>
        have hrefused : ch.deliver b.tokens p.event = (.refused, ch) := by
          rw [Channel.deliver, hc]
          rfl
        have hcancelled := (streamCancelled_eq hi).trans hc
        obtain ⟨done, todo, rfl, hr⟩ := ih
          (h.touch (.closeStream b i) (live_closeStream b i) (h.bounded.closeStream i)) he hk
        rw [hrefused]
        exact ⟨i :: done, todo, rfl, .skip hcancelled h (.closeStream b i) (.closeStream b i)
          (live_closeStream b i) (tokens_closeStream hcancelled) hr⟩
      | false =>
        have hlt := (List.getElem?_eq_some_iff.1 hi).1
        have hdeliver := Channel.deliver_eq hc (h.opened hi hc).hasStream p.event
        cases hfull : ch.isFull with
        | true =>
          -- The publication waits here.
          rw [hdeliver, hfull, he]
          refine ⟨[], i :: rest, rfl, ⟨fun ht => absurd ht (List.cons_ne_nil _ _), fun ht => ?_,
            fun hj => absurd hj List.not_mem_nil⟩, rfl, .refl _ b, fun _ _ => rfl⟩
          obtain ⟨rfl, rfl⟩ := List.cons.inj ht
          exact ⟨rfl, ch, hi, hc, hfull⟩
        | false =>
          have hp := Passes.deliver_closeStream p.event hi
          have hb := (h.bounded.setStream ((h.bounded.getElem? hi).deliver b.tokens p.event)
            i).closeStream i
          rw [hdeliver, hfull, if_neg Bool.false_ne_true] at hp hb ⊢
          have hlive := live_closeStream (b.setStream i { ch with queue := ch.queue ++ [p.event] }) i
          obtain ⟨done, todo, rfl, hr⟩ := ih (p := { p with delivered := p.delivered + 1 })
            (h.touch hp hlive hb) he hk
          refine ⟨i :: done, todo, rfl, ?_⟩
          dsimp only
          rw [if_pos he]
          refine .take hi hc h hp ?_ hlive ?_ ?_ hr
          · exact (Spares.setStream b i _).trans (Spares.closeStream _ i)
          · simp [closeStream, setStream, stream?, hlt, cancel, Channel.concluded]
          · simp [closeStream, setStream, stream?, hlt, cancel, Tokens.isCancelled_cancel]

end Broker

end TaskWatch
