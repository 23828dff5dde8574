import TaskWatch.Proofs.Broker.Handing

/-!
# Publications under way

A publication under way waits at a stream that is held and whose queue is full (`Waits`); it goes on
when there is room, or when the stream is cancelled. Publications wait for different streams, so what
becomes of one does not depend on the others.

* `advanceAll_advances`: how far all of them go, and what they touch;
* `Touches`: what is done with one stream;
* `Orderly.opened_of_lt`, `Orderly.close`, `Orderly.publication`: every stream keeps its place.
-/

namespace TaskWatch

namespace Broker

variable {b b' b'' : Broker} {p : Publication} {done todo others touched : List Nat} {i j : Nat}
  {ch : Channel} {state : PublicationState} {ps : List PublicationState}

/-! ## Rejections are left alone -/

theorem rejections_addLive (b : Broker) (taskId : String) (streams : List Nat) :
    (b.addLive taskId streams).rejections = b.rejections := by
  unfold addLive
  split <;> rfl

theorem rejections_dropSink (b : Broker) (i : Nat) : (b.dropSink i).rejections = b.rejections := by
  unfold dropSink
  split <;> rfl

theorem rejections_closeStream (b : Broker) (i : Nat) :
    (b.closeStream i).rejections = b.rejections := by
  unfold closeStream
  split <;> rfl

theorem rejections_dropStream (b : Broker) (i : Nat) :
    (b.dropStream i).rejections = b.rejections := by
  unfold dropStream
  split <;> rfl

theorem rejections_foldl {f : Broker → Nat → Broker}
    (hf : ∀ b i, (f b i).rejections = b.rejections) (b : Broker) (is : List Nat) :
    (is.foldl f b).rejections = b.rejections := by
  induction is generalizing b with
  | nil => rfl
  | cons i is ih => rw [List.foldl_cons, ih, hf]

theorem rejections_close (b : Broker) (taskId : String) :
    (b.close taskId).rejections = b.rejections :=
  rejections_foldl rejections_closeStream _ _

theorem rejections_prune (b : Broker) : b.prune.rejections = b.rejections :=
  rejections_foldl rejections_dropSink { b with live := _ } _

theorem rejections_opened (b : Broker) (taskId : String) (token : Token) :
    (b.opened taskId token).rejections = b.rejections :=
  rejections_addLive _ _ _

theorem rejections_advance (b : Broker) (p : Publication) (pending : List Nat) :
    (b.advance p pending).2.rejections = b.rejections := by
  induction pending generalizing b p with
  | nil => exact rejections_addLive b p.taskId p.kept
  | cons i rest ih =>
    rw [advance]
    split
    · exact ih b p
    · split
      · rfl
      · rw [ih, rejections_closeStream]
      · dsimp only
        split
        · rw [ih, rejections_closeStream]
          rfl
        · rw [ih]
          rfl

/-! ## Publications under way -/

/-- A publication of a terminal event waits at a stream that is held and has no room. -/
structure Waits (b : Broker) (p : Publication) : Prop where
  terminal : p.event.isTerminal = true
  kept : p.kept = []
  full : ∃ i rest ch, p.pending = i :: rest ∧ b.streams[i]? = some ch ∧
    b.tokens.isCancelled ch.token = false ∧ ch.isFull = true

/-- A publication that waits goes on waiting while the stream stays as it is. -/
theorem Waits.of_alike (h : b.Waits p)
    (hstream : ∀ {i ch}, i ∈ p.pending → b.streams[i]? = some ch →
      b.tokens.isCancelled ch.token = false →
      b'.streams[i]? = some ch ∧ b'.tokens.isCancelled ch.token = false) : b'.Waits p := by
  obtain ⟨i, rest, ch, hpending, hi, hc, hfull⟩ := h.full
  obtain ⟨hi', hc'⟩ := hstream (hpending ▸ List.mem_cons_self ..) hi hc
  exact ⟨h.terminal, h.kept, i, rest, ch, hpending, hi', hc', hfull⟩

/-- A publication waits at the first stream that it has yet to come to. -/
theorem Reaches.waits_there {r : PublicationState × Broker} (hr : Reaches b p done todo r)
    (h : b.Orderly (done ++ todo)) (he : p.event.isTerminal = true) (hk : p.kept = [])
    {p' : Publication} (hp' : .inl p' = r.1) : r.2.Waits p' := by
  cases todo with
  | nil => exact absurd (hp'.trans (hr.ends rfl)) Sum.inl_ne_inr
  | cons i rest =>
    obtain ⟨hstate, ch, hi, hc, hfull⟩ := hr.waits rfl
    obtain rfl := Sum.inl.inj (hp'.trans hstate)
    have hnot : i ∉ done := fun hd => h.notMem_right hd (List.mem_cons_self ..)
    exact ⟨he, hk, i, rest, ch, rfl, (hr.spares i hnot).trans hi,
      (h.isCancelled_passes hr.passes hnot hi).trans hc, hfull⟩

/-- A publication that waits does not go on. -/
theorem Orderly.resume_waits (h : b.Orderly others) (hw : b.Waits p) :
    b.resume p = (.inl p, b) := by
  obtain ⟨i, rest, ch, hpending, hi, hc, hfull⟩ := hw.full
  rw [resume, hpending, advance, stream?, hi]
  dsimp only
  rw [Channel.deliver_eq hc (h.opened hi hc).hasStream, hfull, hw.terminal, ← hpending]
  rfl

theorem Orderly.advanceAll_waits (h : b.Orderly others) (hps : ∀ {p}, .inl p ∈ ps → b.Waits p)
    (last : List PublicationState) : BrokerSession.advanceAll b (ps ++ last) =
      (ps ++ (BrokerSession.advanceAll b last).1, (BrokerSession.advanceAll b last).2) := by
  induction ps with
  | nil => rfl
  | cons state ps ih =>
    have hrest := ih fun hm => hps (List.mem_cons_of_mem state hm)
    cases state with
    | inr n => rw [List.cons_append, BrokerSession.advanceAll, hrest]; rfl
    | inl p =>
      rw [List.cons_append, BrokerSession.advanceAll, h.resume_waits (hps (List.mem_cons_self ..))]
      dsimp only
      rw [hrest]
      rfl

/-- What a publication comes to depends only on the streams it has yet to come to, and stays so if
what comes later does not touch those it has come to. -/
theorem Reached.of_alike (h : Reached b p done todo state b')
    (hbefore : ∀ j ∈ done ++ todo, b.streams[j]? = b''.streams[j]? ∧
      b.streamCancelled j = b''.streamCancelled j) : Reached b'' p done todo state b' := by
  have hfilter : done.filter (!b''.streamCancelled ·) = done.filter (!b.streamCancelled ·) :=
    List.filter_congr fun j hj => by rw [(hbefore j (List.mem_append_left _ hj)).2]
  have halike : ∀ {j ch}, j ∈ done ++ todo → b''.streams[j]? = some ch →
      b.streams[j]? = some ch ∧ b.tokens.isCancelled ch.token = b''.tokens.isCancelled ch.token := by
    intro j ch hj hch
    obtain ⟨hstream, hcancelled⟩ := hbefore j hj
    have hch' := hstream.trans hch
    rw [streamCancelled_eq hch', streamCancelled_eq hch] at hcancelled
    exact ⟨hch', hcancelled⟩
  refine ⟨fun ht => by rw [hfilter, h.ends ht], fun {i rest} ht => ?_, fun {j ch} hj hch hc => ?_⟩
  · obtain ⟨hstate, ch, hch, hc, hfull⟩ := h.waits ht
    obtain ⟨hstream, hcancelled⟩ := hbefore i
      (List.mem_append_right _ (ht ▸ List.mem_cons_self ..))
    rw [hstream] at hch
    obtain ⟨-, e⟩ := halike (List.mem_append_right _ (ht ▸ List.mem_cons_self ..)) hch
    exact ⟨by rw [hfilter, hstate], ch, hch, e ▸ hc, hfull⟩
  · obtain ⟨hch', e⟩ := halike (List.mem_append_left _ hj) hch
    exact h.ended hj hch' (e.trans hc)

theorem Reached.later (h : Reached b p done todo state b') (hg : b'.Grows b'')
    (hs : Spares touched b' b'') (hdisjoint : ∀ j ∈ done, j ∉ touched) :
    Reached b p done todo state b'' where
  ends := h.ends
  waits := h.waits
  ended hj hch hc := by
    obtain ⟨hended, hcancelled⟩ := h.ended hj hch hc
    exact ⟨(hs _ (hdisjoint _ hj)).trans hended, hg.cancelled hcancelled⟩

/-! ## All publications -/

/-- All publications under way have gone as far as they go. -/
structure Advances (b : Broker) (ps : List PublicationState)
    (r : List PublicationState × Broker) : Prop where
  orderly : ∀ {others}, b.Orderly (others ++ ps.flatMap pendingOf) →
    r.2.Orderly (others ++ r.1.flatMap pendingOf)
  waits : ∀ {p}, .inl p ∈ r.1 → r.2.Waits p
  finished : ∀ {k n : Nat}, ps[k]? = some (.inr n) → r.1[k]? = some (.inr n)
  reached : ∀ {k : Nat} {p}, ps[k]? = some (.inl p) → ∃ done todo state, p.pending = done ++ todo ∧
    r.1[k]? = some state ∧ Reached b p done todo state r.2 ∧
    (∀ j ∈ done, j ∉ r.1.flatMap pendingOf) ∧
    ∀ j ∈ todo, r.2.streams[j]? = b.streams[j]? ∧ r.2.streamCancelled j = b.streamCancelled j
  pending : r.1.flatMap pendingOf ⊆ ps.flatMap pendingOf
  live : r.2.live = b.live
  rejections : r.2.rejections = b.rejections
  passes : Passes (ps.flatMap pendingOf) b r.2
  spares : Spares (ps.flatMap pendingOf) b r.2

/-- What a publication still has to come to. -/
theorem Reached.pendingOf_eq (h : Reached b p done todo state b') : pendingOf state = todo := by
  cases todo with
  | nil => rw [h.ends rfl]; rfl
  | cons i rest => rw [(h.waits rfl).1]; rfl

namespace Advances

variable {r : List PublicationState × Broker}

theorem cons_finished {n : Nat} (h : Advances b ps r) :
    Advances b (.inr n :: ps) (.inr n :: r.1, r.2) where
  orderly := h.orderly
  waits hm := h.waits ((List.mem_cons.1 hm).resolve_left Sum.inl_ne_inr)
  finished {k m} hk := by
    cases k with
    | zero => exact hk
    | succ k => exact h.finished hk
  reached {k p} hk := by
    cases k with
    | zero => cases hk
    | succ k => exact h.reached hk
  pending := h.pending
  live := h.live
  rejections := h.rejections
  passes := h.passes
  spares := h.spares

/-- One publication goes on, and then the others: they touch different streams. -/
theorem cons_under_way (h : b.Orderly (p.pending ++ ps.flatMap pendingOf))
    (he : p.event.isTerminal = true) (hk : p.kept = []) (hpending : p.pending = done ++ todo)
    (hp : Reaches b p done todo (state, b')) (hbounded : b'.Bounded)
    (hrejections : b'.rejections = b.rejections) (hr : Advances b' ps r) :
    Advances b (.inl p :: ps) (state :: r.1, r.2) := by
  have hnotRest : ∀ {j}, j ∈ done ++ todo → j ∉ ps.flatMap pendingOf := fun hj =>
    h.notMem_right (hpending ▸ hj)
  have hnotDone : ∀ {j}, j ∈ ps.flatMap pendingOf → j ∉ done := fun hj hd =>
    hnotRest (List.mem_append_left todo hd) hj
  have htaken : b.Orderly (done ++ todo) :=
    hpending ▸ h.of_subperm (List.sublist_append_left _ _).subperm
  have horderly : ∀ {others}, b.Orderly (others ++ (p.pending ++ ps.flatMap pendingOf)) →
      b'.Orderly ((others ++ todo) ++ ps.flatMap pendingOf) := by
    intro others ho
    refine ho.passes hp.passes (ho.keyed.of_live hp.live) ?_ hbounded
    refine ho.filed.of_subperm hp.passes.grows ?_ (ho.filed.live.of_live hp.live)
    rw [held, held, hp.live, hpending]
    refine ((List.Sublist.append_left ?_ _)).subperm
    rw [List.append_assoc, List.append_assoc]
    exact ((List.sublist_append_right done _)).append_left others
  have h' : b'.Orderly (todo ++ ps.flatMap pendingOf) := by
    have hnone := @horderly [] h
    exact hnone
  have hstate := hp.toReached.pendingOf_eq
  have hsub : done ⊆ (.inl p :: ps).flatMap pendingOf := by
    rw [List.flatMap_cons, pendingOf, hpending]
    exact fun j hj => List.mem_append_left _ (List.mem_append_left todo hj)
  refine ⟨fun ho => ?_, fun {q} hm => ?_, fun {k n} hk => ?_, fun {k q} hk => ?_,
    ?_, hr.live.trans hp.live, hr.rejections.trans hrejections, ?_, ?_⟩
  · rw [List.flatMap_cons, hstate, ← List.append_assoc]
    exact hr.orderly (horderly ho)
  · rcases List.mem_cons.1 hm with hq | hm
    · refine (hp.waits_there htaken he hk hq).of_alike fun {i ch} hi hch hc => ?_
      obtain rfl : state = .inl q := hq.symm
      have hi : i ∈ todo := by
        rw [← hstate]
        exact hi
      have hnot := hnotRest (List.mem_append_right done hi)
      exact ⟨(hr.spares i hnot).trans hch, (h'.isCancelled_passes hr.passes hnot hch).trans hc⟩
    · exact hr.waits hm
  · cases k with
    | zero => cases hk
    | succ k => exact hr.finished hk
  · cases k with
    | zero =>
      obtain rfl := Sum.inl.inj (Option.some.inj hk)
      refine ⟨done, todo, state, hpending, rfl, hp.toReached.later hr.passes.grows hr.spares
        fun j hj => hnotRest (List.mem_append_left todo hj), fun j hj hm => ?_, fun j hj => ?_⟩
      · rw [List.flatMap_cons, hstate] at hm
        rcases List.mem_append.1 hm with hm | hm
        · exact htaken.notMem_right hj hm
        · exact hnotRest (List.mem_append_left todo hj) (hr.pending hm)
      · have hnot : j ∉ done := fun hd => htaken.notMem_right hd hj
        have hnot' := hnotRest (List.mem_append_right done hj)
        exact ⟨(hr.spares j hnot').trans (hp.spares j hnot),
          (h'.streamCancelled_passes hr.passes hnot').trans (h.streamCancelled_passes hp.passes hnot)⟩
    | succ k =>
      obtain ⟨done', todo', state', hpending', hk', hreached, hleft, hkept⟩ := hr.reached hk
      have hmem : ∀ j ∈ done' ++ todo', j ∈ ps.flatMap pendingOf := fun j hj =>
        List.mem_flatMap.2 ⟨_, List.mem_of_getElem? hk, by rw [pendingOf, hpending']; exact hj⟩
      have hbefore : ∀ j ∈ done' ++ todo', b'.streams[j]? = b.streams[j]? ∧
          b'.streamCancelled j = b.streamCancelled j := fun j hj =>
        ⟨hp.spares j (hnotDone (hmem j hj)), h.streamCancelled_passes hp.passes (hnotDone (hmem j hj))⟩
      refine ⟨done', todo', state', hpending', hk', hreached.of_alike hbefore, fun j hj hm => ?_,
        fun j hj => ?_⟩
      · rw [List.flatMap_cons, hstate] at hm
        rcases List.mem_append.1 hm with hm | hm
        · exact hnotRest (List.mem_append_right done hm) (hmem j (List.mem_append_left todo' hj))
        · exact hleft j hj hm
      · obtain ⟨hstream, hcancelled⟩ := hbefore j (List.mem_append_right done' hj)
        exact ⟨(hkept j hj).1.trans hstream, (hkept j hj).2.trans hcancelled⟩
  · rw [List.flatMap_cons, List.flatMap_cons, hstate, pendingOf, hpending]
    refine List.append_subset.2 ⟨fun j hj => ?_, fun j hj => ?_⟩
    · exact List.mem_append_left _ (List.mem_append_right done hj)
    · exact List.mem_append_right _ (hr.pending hj)
  · exact (hp.passes.mono hsub).trans (hr.passes.mono (List.subset_append_right _ _))
  · exact (hp.spares.mono hsub).trans (hr.spares.mono (List.subset_append_right _ _))

end Advances

theorem advanceAll_advances (h : b.Orderly (ps.flatMap pendingOf))
    (hps : ∀ {p}, .inl p ∈ ps → p.event.isTerminal = true ∧ p.kept = []) :
    Advances b ps (BrokerSession.advanceAll b ps) := by
  induction ps generalizing b with
  | nil =>
    exact ⟨fun ho => ho, fun hm => absurd hm List.not_mem_nil, fun hk => hk,
      fun hk => absurd hk (by simp), List.Subset.refl _, rfl, rfl, .refl _ b, fun _ _ => rfl⟩
  | cons state ps ih =>
    have hrest : ∀ {p}, .inl p ∈ ps → p.event.isTerminal = true ∧ p.kept = [] := fun hm =>
      hps (List.mem_cons_of_mem state hm)
    rw [BrokerSession.advanceAll.eq_def]
    cases state with
    | inr n => exact (ih h hrest).cons_finished
    | inl p =>
      obtain ⟨he, hk⟩ := hps (List.mem_cons_self ..)
      rw [List.flatMap_cons] at h
      have hp : b.Orderly p.pending := h.of_subperm (List.sublist_append_left _ _).subperm
      obtain ⟨done, todo, hpending, hreaches⟩ := hp.advance_reaches he hk
      have hbounded := h.bounded.advance p p.pending
      have h' : (b.advance p p.pending).2.Orderly (ps.flatMap pendingOf) := by
        have hrest : b.Orderly (ps.flatMap pendingOf) :=
          h.of_subperm (List.sublist_append_right _ _).subperm
        exact hrest.passes hreaches.passes (h.keyed.of_live hreaches.live)
          (hrest.filed.grows hreaches.passes.grows hreaches.live) hbounded
      exact .cons_under_way h he hk hpending hreaches hbounded
        (rejections_advance b p p.pending) (ih h' hrest)

/-- The broker when one more token was handed out. -/
def issue (b : Broker) : Broker := { b with tokens := b.tokens.issue }

/-- To cancel a new token cancels no other one. -/
theorem isCancelled_issue_cancel {token : Token} (h : token < b.tokens.issued) :
    (b.issue.cancel b.tokens.next).tokens.isCancelled token = b.tokens.isCancelled token := by
  have hne : token ≠ b.tokens.next := Nat.ne_of_lt h
  rw [cancel, Tokens.isCancelled_cancel, beq_eq_false_iff_ne.2 hne, Bool.false_or]
  rfl

/-! ## One stream -/

/-- One stream changes, and its token may be cancelled. -/
structure Touches (i : Nat) (b b' : Broker) : Prop where
  passes : Passes [i] b b'
  spares : Spares [i] b b'
  live : b'.live = b.live
  rejections : b'.rejections = b.rejections
  bounded : b.Bounded → b'.Bounded

theorem Touches.orderly (h : Touches i b b') (horderly : b.Orderly others) : b'.Orderly others :=
  horderly.passes h.passes (horderly.keyed.of_live h.live)
    (horderly.filed.grows h.passes.grows h.live) (h.bounded horderly.bounded)

theorem receive_eq_some {reception : Reception} (h : b.receive i = some (reception, b')) :
    ∃ ch, b.streams[i]? = some ch ∧ ch.hasStream = true ∧ reception = ch.receive.1 ∧
      b' = b.setStream i ch.receive.2 := by
  unfold receive at h
  split at h
  · next ch hi =>
    split at h
    · next hstream =>
      obtain ⟨rfl, rfl⟩ := Prod.mk.inj (Option.some.inj h)
      exact ⟨ch, hi, hstream, rfl, rfl⟩
    · cases h
  · cases h

theorem touches_receive {reception : Reception} (h : b.receive i = some (reception, b')) :
    Touches i b b' := by
  obtain ⟨ch, hi, -, -, rfl⟩ := receive_eq_some h
  have same : Channel.Same ch ch.receive.2 := by
    unfold Channel.receive
    split <;> exact ⟨rfl, rfl, rfl⟩
  have hqueue : ch.receive.2.queue.Sublist ch.queue := by
    unfold Channel.receive
    split
    · next e rest hq => exact hq ▸ List.sublist_cons_self e rest
    · exact .refl _
  refine ⟨.of_set hi same rfl (.inl rfl) rfl
      (fun hn => absurd (List.mem_singleton_self i) hn) fun _ ho => ⟨?_, ?_, fun e hm => ?_⟩,
    .setStream b i _, rfl, rfl, fun hb => hb.of_set hi rfl same.capacity hqueue.length_le⟩
  · unfold Channel.receive
    split <;> exact ho.hasSink
  · unfold Channel.receive
    split <;> exact ho.hasStream
  · exact ho.queue e (hqueue.subset hm)

theorem touches_cancel (hi : b.streams[i]? = some ch) : Touches i b (b.cancel ch.token) := by
  have hset : b.streams = b.streams.set i ch := by
    obtain ⟨hlt, rfl⟩ := List.getElem?_eq_some_iff.1 hi
    exact (List.set_getElem_self hlt).symm
  exact ⟨.of_set hi (.refl ch) rfl (.inr ⟨List.mem_singleton_self i, rfl⟩) hset (fun _ => rfl)
    fun _ ho => ho, fun _ _ => rfl, rfl, rfl, fun hb => hb⟩

theorem touches_dropStream (b : Broker) (i : Nat) : Touches i b (b.dropStream i) :=
  ⟨.dropStream b i, .dropStream b i, live_dropStream b i, rejections_dropStream b i,
    fun hb => hb.dropStream i⟩

/-! ## All streams -/

theorem stream_opened {taskId : String} {token : Token}
    (hj : (b.opened taskId token).streams[j]? = some ch) :
    b.streams[j]? = some ch ∨ j = b.streams.length ∧ ch = .new taskId b.capacity token := by
  rw [streams_opened] at hj
  rcases Nat.lt_or_ge j b.streams.length with hlt | hge
  · exact .inl (List.getElem?_append_left hlt ▸ hj)
  · rw [List.getElem?_append_right hge, List.getElem?_singleton] at hj
    split at hj
    · next h0 => exact .inr ⟨by omega, (Option.some.inj hj).symm⟩
    · cases hj

namespace Orderly

variable {pending : List Nat} {tokens : Tokens}

/-- New tokens may be handed out, and cancelled. -/
theorem of_tokens (h : b.Orderly pending) (hissued : b.tokens.issued ≤ tokens.issued)
    (hsame : ∀ {token}, token < b.tokens.issued →
      tokens.isCancelled token = b.tokens.isCancelled token)
    (hcancelled : ∀ {token}, tokens.isCancelled token = true → token < tokens.issued) :
    Orderly { b with tokens := tokens } pending where
  keyed := h.keyed
  filed := h.filed.grows
    (.of_tokens hissued fun hc => (hsame (h.cancelled hc)).trans hc) rfl
  bounded := h.bounded
  opened hj hc := h.opened hj ((hsame (h.issued hj)).symm.trans hc)
  apart := h.apart
  issued hj := Nat.lt_of_lt_of_le (h.issued hj) hissued
  cancelled := hcancelled

theorem of_rejections (h : b.Orderly pending) (rejections : List (String × String)) :
    Orderly { b with rejections := rejections } pending := by
  have hp : Passes [] b { b with rejections := rejections } := .of_eq (by rfl) (by rfl) (by rfl) []
  exact h.passes hp h.keyed (h.filed.grows hp.grows rfl) h.bounded

theorem prune (h : b.Orderly pending) : b.prune.Orderly pending :=
  h.passes (.prune b) h.keyed.prune h.filed.prune h.bounded.prune

/-- A stream that is opened has a token that no other stream has. -/
theorem opened_of_lt (h : b.Orderly pending) {token : Token} (hissued : token < b.tokens.issued)
    (hnew : ∀ {j : Nat} {ch}, b.streams[j]? = some ch → ch.token ≠ token) (taskId : String) :
    (b.opened taskId token).Orderly pending where
  keyed := by
    have hb : ∀ streams, Keyed { b with streams := streams } := fun _ => h.keyed
    exact (hb _).addLive taskId _
  filed := h.filed.opened taskId token
  bounded ch hm := by
    obtain ⟨j, hj⟩ := List.mem_iff_getElem?.1 hm
    rcases stream_opened hj with hj | ⟨-, rfl⟩
    · exact h.bounded.getElem? hj
    · exact ⟨Nat.le_max_right _ _, Nat.zero_le _⟩
  opened hj hc := by
    rw [tokens_opened] at hc
    rcases stream_opened hj with hj | ⟨-, rfl⟩
    · exact h.opened hj hc
    · exact ⟨rfl, rfl, fun _ hm => absurd hm List.not_mem_nil⟩
  apart hi hj e := by
    rcases stream_opened hi with hi | ⟨rfl, rfl⟩
    · rcases stream_opened hj with hj | ⟨rfl, rfl⟩
      · exact h.apart hi hj e
      · exact absurd e (hnew hi)
    · rcases stream_opened hj with hj | ⟨rfl, rfl⟩
      · exact absurd e.symm (hnew hj)
      · rfl
  issued hj := by
    rw [tokens_opened]
    rcases stream_opened hj with hj | ⟨-, rfl⟩
    · exact h.issued hj
    · exact hissued
  cancelled hc := by
    rw [tokens_opened] at hc ⊢
    exact h.cancelled hc

theorem close (h : b.Orderly pending) (taskId : String) : (b.close taskId).Orderly pending :=
  h.passes (.close b taskId) ((h.keyed.withoutTask taskId).of_live (live_close b taskId))
    (h.filed.of_subperm (Passes.close b taskId).grows
      ((List.subperm_append_right pending).2 (b.held_close taskId)) (h.filed.live.close taskId))
    (h.bounded.close taskId)

/-- A publication takes the live streams of its task. -/
theorem withoutTask (h : b.Orderly pending) (taskId : String) :
    (b.withoutTask taskId).Orderly (pending ++ b.liveStreams taskId) := by
  refine h.passes (.withoutTask b taskId) (h.keyed.withoutTask taskId) ?_ h.bounded
  refine h.filed.of_subperm (Passes.withoutTask b taskId).grows ?_
    ((h.filed.live.withoutTask taskId).mono fun _ _ h => h.2)
  refine (List.Perm.subperm ?_).trans ((List.subperm_append_right pending).2 (b.held_withoutTask taskId))
  rw [List.append_assoc]
  exact (List.perm_append_comm.append_left _).trans
    (by rw [← List.append_assoc, ← List.append_assoc]; exact List.perm_append_comm.append_right _)

theorem taken (h : b.Orderly pending) (taskId : String) :
    (b.withoutTask taskId).Orderly (b.liveStreams taskId) :=
  (h.withoutTask taskId).of_subperm (List.sublist_append_right pending _).subperm

/-- What a publication has yet to come to is all that it holds when it has gone as far as it goes. -/
theorem publication (h : b.Orderly pending) (taskId : String) (event : Event) :
    (b.publication taskId event).2.Orderly
      (pending ++ pendingOf (b.publication taskId event).1) := by
  have hw := h.withoutTask taskId
  have hout := b.publication_outcome taskId event
  have hpasses := Passes.advance (b.withoutTask taskId) (b.publish taskId event).1
    (b.liveStreams taskId)
  refine hw.passes hpasses ?_ ?_ (hw.bounded.advance _ _)
  · generalize b.publication taskId event = r at hout
    cases hout with
    | waits _ _ _ _ _ live => exact hw.keyed.of_live live
    | ends _ _ _ live => exact (hw.keyed.addLive _ _).of_live live
  · refine hw.filed.of_subperm hpasses.grows ?_ (hout.files hw.filed.live fun j hj => ?_)
    · have hmoved := subperm_append_middle pending [] hout.subperm
      rw [List.append_nil, List.append_nil] at hmoved
      exact hmoved
    · exact h.filed.live.liveStreams hj

/-- An event that does not end its task is handed to all live streams of the task. -/
theorem publication_hands (h : b.Orderly pending) {event : Event}
    (he : event.isTerminal = false) (taskId : String) :
    Hands (b.withoutTask taskId) (b.publish taskId event).1 (b.liveStreams taskId)
      (b.publication taskId event) :=
  (h.taken taskId).advance_hands he

/-- A terminal event ends the live streams of the task up to the first whose queue is full. -/
theorem publication_reaches (h : b.Orderly pending) {event : Event}
    (he : event.isTerminal = true) (taskId : String) :
    ∃ done todo, b.liveStreams taskId = done ++ todo ∧ Reaches (b.withoutTask taskId)
      (b.publish taskId event).1 done todo (b.publication taskId event) :=
  (h.taken taskId).advance_reaches he rfl

/-- A publication comes to the live streams of its task only. -/
theorem spares_publication (h : b.Orderly pending) (taskId : String) (event : Event) :
    Spares (b.liveStreams taskId) b (b.publication taskId event).2 := by
  cases he : event.isTerminal with
  | false => exact (h.publication_hands he taskId).spares
  | true =>
    obtain ⟨done, todo, hlive, hr⟩ := h.publication_reaches he taskId
    exact hr.spares.mono (hlive ▸ List.subset_append_left done todo)

end Orderly

end Broker

end TaskWatch
