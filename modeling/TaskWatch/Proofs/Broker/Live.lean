import Mathlib.Data.List.Perm.Subperm
import TaskWatch.Broker.Session
import TaskWatch.Proofs.Broker.Streams
import TaskWatch.Proofs.Entries

/-!
# Live streams and publications

A publication takes the live streams of its task, and gives back those that stay live. So every
stream has one place at most: the live streams of all tasks (`Broker.held`) never gain a stream that
they did not have, except by a new watch and from a publication.

* `held_withoutTask`, `held_addLive`, `held_prune`: what is taken, given back and let go;
* `Files`: a property of all live streams, with the task they are live for;
* `Filed`: every live stream is one of its task, and has one place only, here or in a publication;
* `advance_outcome`: how far a publication gets, and which streams it gives back;
* `advance_delivers`: a terminal event that is published for an open stream waits, or it is the last
  in the queue of the stream.
-/

namespace TaskWatch.Broker

/-- The live streams of all tasks. -/
def held (b : Broker) : List Nat := b.live.flatMap (·.2)

/-- All live streams have a property, with the task they are live for. -/
def Files (b : Broker) (P : String → Nat → Prop) : Prop :=
  ∀ taskId streams, (taskId, streams) ∈ b.live → ∀ j ∈ streams, P taskId j

variable {b : Broker} {P Q : String → Nat → Prop} {taskId : String} {j : Nat}

theorem liveStreams_eq (b : Broker) (taskId : String) :
    b.liveStreams taskId = [] ∨ (taskId, b.liveStreams taskId) ∈ b.live := by
  unfold liveStreams
  cases h : b.live.find? (·.1 == taskId) with
  | none => exact .inl rfl
  | some entry =>
    have hkey : entry.1 = taskId := by simpa using List.find?_some h
    exact .inr (hkey ▸ List.mem_of_find?_eq_some h)

/-! ## Properties of live streams -/

namespace Files

theorem mono (h : b.Files P) (hPQ : ∀ taskId j, P taskId j → Q taskId j) : b.Files Q :=
  fun task streams he j hj => hPQ task j (h task streams he j hj)

theorem of_live {b' : Broker} (h : b.Files P) (e : b'.live = b.live) : b'.Files P :=
  fun task streams he => h task streams (e ▸ he)

theorem liveStreams (h : b.Files P) (hj : j ∈ b.liveStreams taskId) : P taskId j := by
  rcases b.liveStreams_eq taskId with e | he
  · rw [e] at hj
    exact absurd hj (List.not_mem_nil)
  · exact h _ _ he j hj

theorem withoutTask (h : b.Files P) (taskId : String) :
    (b.withoutTask taskId).Files fun task j => task ≠ taskId ∧ P task j := by
  intro task streams he j hj
  obtain ⟨he, hne⟩ := List.mem_filter.1 he
  exact ⟨by simpa using hne, h _ _ he j hj⟩

theorem addLive (h : b.Files P) {streams : List Nat} (hs : ∀ j ∈ streams, P taskId j) :
    (b.addLive taskId streams).Files P := by
  unfold Broker.addLive
  split
  · exact h
  · intro task streams' he j hj
    rcases List.mem_cons.1 he with he | he
    · obtain ⟨rfl, rfl⟩ := Prod.mk.inj he
      rcases List.mem_append.1 hj with hj | hj
      · exact h.liveStreams hj
      · exact hs j hj
    · exact (h.withoutTask taskId _ _ he j hj).2

end Files

/-! ## Taking and giving back -/

theorem held_withoutTask (b : Broker) (taskId : String) :
    (b.liveStreams taskId ++ (b.withoutTask taskId).held).Subperm b.held := by
  unfold held withoutTask liveStreams
  dsimp only
  induction b.live with
  | nil => exact .refl []
  | cons entry live ih =>
    by_cases hkey : entry.1 = taskId
    · rw [List.find?_cons_of_pos (by simpa using hkey), List.filter_cons_of_neg (by simpa using hkey),
        List.flatMap_cons]
      refine (List.subperm_append_left entry.2).2 ?_
      exact ((List.sublist_append_right _ _).subperm).trans ih
    · rw [List.find?_cons_of_neg (by simpa using hkey), List.filter_cons_of_pos (by simpa using hkey),
        List.flatMap_cons, List.flatMap_cons]
      refine (List.Perm.subperm ?_).trans ((List.subperm_append_left entry.2).2 ih)
      rw [← List.append_assoc, ← List.append_assoc]
      exact List.perm_append_comm.append_right _

theorem held_addLive (b : Broker) (taskId : String) (streams : List Nat) :
    ((b.addLive taskId streams).held).Subperm (b.held ++ streams) := by
  unfold addLive
  split
  · exact (List.sublist_append_left b.held streams).subperm
  · refine (List.Perm.subperm ?_).trans
      ((List.subperm_append_right streams).2 (b.held_withoutTask taskId))
    rw [held, List.flatMap_cons, List.append_assoc, List.append_assoc]
    exact List.perm_append_comm.append_left _

theorem live_dropSink (b : Broker) (i : Nat) : (b.dropSink i).live = b.live := by
  unfold dropSink
  split <;> rfl

theorem live_closeStream (b : Broker) (i : Nat) : (b.closeStream i).live = b.live := by
  unfold closeStream
  split <;> rfl

theorem live_dropStream (b : Broker) (i : Nat) : (b.dropStream i).live = b.live := by
  unfold dropStream
  split <;> rfl

theorem live_takeEvents (b : Broker) (i : Nat) : (b.takeEvents i).2.2.live = b.live := by
  unfold takeEvents
  split <;> rfl

theorem live_foldl {f : Broker → Nat → Broker} (hf : ∀ b i, (f b i).live = b.live) (b : Broker)
    (is : List Nat) : (is.foldl f b).live = b.live := by
  induction is generalizing b with
  | nil => rfl
  | cons i is ih => rw [List.foldl_cons, ih, hf]

theorem live_prune (b : Broker) : b.prune.live =
    (b.live.map fun (taskId, streams) => (taskId, streams.filter (!b.streamCancelled ·))).filter
      (!·.2.isEmpty) := by
  unfold prune
  rw [live_foldl live_dropSink]

theorem live_close (b : Broker) (taskId : String) :
    (b.close taskId).live = (b.withoutTask taskId).live := live_foldl live_closeStream _ _

theorem Files.prune (h : b.Files P) : b.prune.Files P := by
  intro task streams he j hj
  rw [live_prune] at he
  obtain ⟨⟨task', streams'⟩, he', e⟩ := List.mem_map.1 (List.mem_filter.1 he).1
  obtain ⟨rfl, rfl⟩ := Prod.mk.inj e
  exact h _ _ he' j (List.mem_filter.1 hj).1

theorem Files.close (h : b.Files P) (taskId : String) : (b.close taskId).Files P := by
  intro task streams he j hj
  rw [live_close] at he
  exact (h.withoutTask taskId _ _ he j hj).2

theorem held_prune (b : Broker) : b.prune.held.Sublist b.held := by
  rw [held, held, live_prune]
  induction b.live with
  | nil => exact .slnil
  | cons entry live ih =>
    rw [List.map_cons, List.flatMap_cons]
    by_cases he : (entry.2.filter (!b.streamCancelled ·)).isEmpty
    · rw [List.filter_cons_of_neg (by simpa using he)]
      exact ih.trans (List.sublist_append_right _ _)
    · rw [List.filter_cons_of_pos (by simpa using he), List.flatMap_cons]
      exact List.filter_sublist.append ih

theorem held_close (b : Broker) (taskId : String) : (b.close taskId).held.Subperm b.held := by
  rw [held, live_close]
  exact (List.sublist_append_right _ _).subperm.trans (b.held_withoutTask taskId)

/-! ## Every stream in its place -/

/-- Live streams are streams of their tasks, and no stream is live twice, or live and still to be
reached by a publication. -/
structure Filed (b : Broker) (pending : List Nat) : Prop where
  nodup : (b.held ++ pending).Nodup
  live : b.Files fun taskId j => ∃ ch, b.streams[j]? = some ch ∧ ch.taskId = taskId
  pending : ∀ j ∈ pending, j < b.streams.length

namespace Filed

variable {b' : Broker} {pending pending' : List Nat}

theorem lt_length (h : b.Filed pending) (hj : j ∈ b.held ++ pending) : j < b.streams.length := by
  rcases List.mem_append.1 hj with hj | hj
  · obtain ⟨⟨taskId, streams⟩, he, hj⟩ := List.mem_flatMap.1 hj
    obtain ⟨ch, hch, -⟩ := h.live _ _ he j hj
    exact (List.getElem?_eq_some_iff.1 hch).1
  · exact h.pending j hj

/-- Streams may only be moved and let go. -/
theorem of_subperm (h : b.Filed pending) (hg : b.Grows b')
    (hsub : (b'.held ++ pending').Subperm (b.held ++ pending))
    (hfiles : b'.Files fun taskId j => ∃ ch, b.streams[j]? = some ch ∧ ch.taskId = taskId) :
    b'.Filed pending' where
  nodup := by
    obtain ⟨l, hperm, hsub⟩ := hsub
    exact hperm.nodup_iff.1 (h.nodup.sublist hsub)
  live := hfiles.mono fun taskId j ⟨ch, hch, e⟩ => by
    obtain ⟨ch', hch', same, -⟩ := hg.stream hch
    exact ⟨ch', hch', same.taskId.trans e⟩
  pending j hj := hg.length ▸ h.lt_length (hsub.subset (List.mem_append_right _ hj))

theorem grows (h : b.Filed pending) (hg : b.Grows b') (hlive : b'.live = b.live) :
    b'.Filed pending :=
  h.of_subperm hg (by rw [held, held, hlive]) (h.live.of_live hlive)

theorem prune (h : b.Filed pending) : b.prune.Filed pending :=
  h.of_subperm (Passes.prune b).grows
    ((List.subperm_append_right pending).2 b.held_prune.subperm) h.live.prune

/-- A stream that is opened is new. -/
theorem opened (h : b.Filed pending) (taskId : String) (token : Token) :
    (b.opened taskId token).Filed pending := by
  have hg := b.grows_opened taskId token
  have files : (b.opened taskId token).Files fun task j =>
      ∃ ch, (b.streams ++ [Channel.new taskId b.capacity token])[j]? = some ch ∧
        ch.taskId = task := by
    refine Files.addLive (fun _ _ he j hj => ?_) fun j hj => ?_
    · obtain ⟨ch, hch, e⟩ := h.live _ _ he j hj
      exact ⟨ch, by rw [List.getElem?_append_left (List.getElem?_eq_some_iff.1 hch).1, hch], e⟩
    · rw [List.mem_singleton.1 hj]
      exact ⟨_, List.getElem?_concat_length, rfl⟩
  refine ⟨?_, files.mono fun taskId j ⟨ch, hch, e⟩ => ?_, fun j hj => ?_⟩
  · have moved : ((b.opened taskId token).held ++ pending).Subperm
        (b.streams.length :: (b.held ++ pending)) := by
      refine ((List.subperm_append_right pending).2 (held_addLive _ _ _)).trans (List.Perm.subperm ?_)
      rw [List.append_assoc]
      exact List.perm_middle
    obtain ⟨l, hperm, hsub⟩ := moved
    refine hperm.nodup_iff.1 (List.Nodup.sublist hsub (List.nodup_cons.2 ⟨fun hm => ?_, h.nodup⟩))
    exact Nat.lt_irrefl _ (h.lt_length hm)
  · obtain ⟨ch', hch', same, -⟩ := hg.stream hch
    exact ⟨ch', hch', same.taskId.trans e⟩
  · rw [hg.length, List.length_append]
    exact Nat.lt_add_right _ (h.pending j hj)

end Filed

/-! ## Publications -/

theorem live_addLive {b b' : Broker} (h : b'.live = b.live) (taskId : String)
    (streams : List Nat) : (b'.addLive taskId streams).live = (b.addLive taskId streams).live := by
  unfold addLive withoutTask liveStreams
  rw [h]
  split
  · exact h
  · rfl

/-- What comes of a publication: it waits, with a terminal event only, or it ends and gives back
streams that took the event, none if the event is terminal. -/
inductive Outcome (b : Broker) (p : Publication) (pending : List Nat) :
    (Publication ⊕ Nat) × Broker → Prop where
  | waits {q : Publication} {b' : Broker} (terminal : p.event.isTerminal = true)
      (taskId : q.taskId = p.taskId) (event : q.event = p.event) (kept : q.kept = p.kept)
      (suffix : q.pending <:+ pending) (live : b'.live = b.live) : Outcome b p pending (.inl q, b')
  | ends {n : Nat} {b' : Broker} (taken : List Nat) (sub : taken.Sublist pending)
      (terminal : p.event.isTerminal = true → taken = [])
      (live : b'.live = (b.addLive p.taskId (p.kept ++ taken)).live) :
      Outcome b p pending (.inr n, b')

/-- A stream that is not given back. -/
theorem Outcome.skip {b b' : Broker} {p : Publication} {i n : Nat} {rest : List Nat}
    {r : (Publication ⊕ Nat) × Broker} (h : Outcome b' { p with delivered := n } rest r)
    (hlive : b'.live = b.live) : Outcome b p (i :: rest) r := by
  cases h with
  | waits terminal taskId event kept suffix live =>
    exact .waits terminal taskId event kept (suffix.trans (List.suffix_cons i rest))
      (live.trans hlive)
  | ends taken sub terminal live =>
    exact .ends taken (sub.cons i) terminal (live.trans (live_addLive hlive _ _))

/-- A stream that is given back. -/
theorem Outcome.keep {b b' : Broker} {p : Publication} {i n : Nat} {rest : List Nat}
    {r : (Publication ⊕ Nat) × Broker}
    (h : Outcome b' { p with delivered := n, kept := p.kept ++ [i] } rest r)
    (he : p.event.isTerminal = false) (hlive : b'.live = b.live) : Outcome b p (i :: rest) r := by
  cases h with
  | waits terminal => exact absurd (he.symm.trans terminal) (by decide)
  | ends taken sub _ live =>
    refine .ends (i :: taken) (sub.cons_cons i) (fun h => absurd (he.symm.trans h) (by decide)) ?_
    rw [live, live_addLive hlive, List.append_assoc]
    rfl

theorem advance_outcome (b : Broker) (p : Publication) (pending : List Nat) :
    Outcome b p pending (advance b p pending) := by
  induction pending generalizing b p with
  | nil => exact .ends [] .slnil (fun _ => rfl) (by rw [List.append_nil])
  | cons i rest ih =>
    rw [advance]
    split
    · exact (ih b p).skip rfl
    · next ch hi =>
      split
      · next hwaiting =>
        have hterminal : p.event.isTerminal = true := by
          by_contra he
          unfold Channel.deliver at hwaiting
          rw [if_neg he] at hwaiting
          split at hwaiting
          · cases hwaiting
          · split at hwaiting <;> cases hwaiting
        exact .waits hterminal rfl rfl rfl (List.suffix_refl _) rfl
      · exact (ih _ p).skip (live_closeStream b i)
      · dsimp only
        split
        · exact (ih _ _).skip (live_closeStream _ i)
        · next he => exact (ih _ _).keep (eq_false_of_ne_true he) rfl

/-- The streams that a publication has yet to come to. -/
def pendingOf : PublicationState → List Nat
  | .inl p => p.pending
  | .inr _ => []

namespace Outcome

variable {p : Publication} {pending : List Nat} {r : (Publication ⊕ Nat) × Broker}

/-- Streams that are live afterwards, or still to be reached, were so before. -/
theorem subperm (h : Outcome b p pending r) :
    (r.2.held ++ pendingOf r.1).Subperm (b.held ++ (p.kept ++ pending)) := by
  cases h with
  | @waits q b' _ _ _ _ suffix live =>
    rw [held, live]
    exact (suffix.sublist.trans (List.sublist_append_right _ _)).append_left _ |>.subperm
  | @ends n b' taken sub _ live =>
    rw [pendingOf, List.append_nil, held, live]
    refine (held_addLive b p.taskId _).trans ?_
    exact ((sub.append_left _).append_left _).subperm

theorem files (h : Outcome b p pending r) (hb : b.Files P)
    (hp : ∀ j ∈ p.kept ++ pending, P p.taskId j) : r.2.Files P := by
  cases h with
  | waits _ _ _ _ _ live => exact hb.of_live live
  | @ends n b' taken sub _ live =>
    refine Files.of_live (hb.addLive fun j hj => hp j ?_) live
    exact (sub.append_left p.kept).subset hj

/-- A terminal event gives nothing back. -/
theorem live_eq (h : Outcome b p pending r) (he : p.event.isTerminal = true) (hk : p.kept = []) :
    r.2.live = b.live := by
  cases h with
  | waits _ _ _ _ _ live => exact live
  | ends taken _ terminal live =>
    rw [live, terminal he, hk]
    rfl

/-- What is left of a publication that waits. -/
theorem waiting {q : Publication} (h : Outcome b p pending r) (hq : r.1 = .inl q) :
    q.pending <:+ pending ∧ q.event = p.event ∧ q.kept = p.kept ∧ p.event.isTerminal = true := by
  cases h with
  | waits terminal _ event kept suffix _ =>
    obtain rfl := Sum.inl.inj hq
    exact ⟨suffix, event, kept, terminal⟩
  | ends => cases hq

end Outcome

/-- A publication from its start, as far as it goes. -/
def publication (b : Broker) (taskId : String) (event : Event) : (Publication ⊕ Nat) × Broker :=
  (b.publish taskId event).2.resume (b.publish taskId event).1

theorem publication_outcome (b : Broker) (taskId : String) (event : Event) :
    Outcome (b.withoutTask taskId) (b.publish taskId event).1 (b.liveStreams taskId)
      (b.publication taskId event) :=
  advance_outcome _ _ _

theorem publication_passes (b : Broker) (taskId : String) (event : Event) :
    Passes (b.liveStreams taskId) b (b.publication taskId event).2 :=
  ((Passes.withoutTask b taskId).mono (List.nil_subset _)).trans (Passes.advance _ _ _)

/-- A publication has not come to a stream yet, or the event has come last into its queue, and its
token is cancelled. -/
def Delivers (j : Nat) (ch : Channel) (event : Event) (r : (Publication ⊕ Nat) × Broker) : Prop :=
  (∃ q, r.1 = .inl q ∧ j ∈ q.pending ∧ r.2.tokens.isCancelled ch.token = false ∧
    ∃ ch', r.2.streams[j]? = some ch' ∧ ch'.queue = ch.queue) ∨
  ((∀ q, r.1 = .inl q → j ∉ q.pending) ∧ r.2.tokens.isCancelled ch.token = true ∧
    ∃ ch', r.2.streams[j]? = some ch' ∧ ch'.queue = ch.queue ++ [event])

/-- The streams before an open one leave it as it is, if their tokens are others. -/
theorem Passes.stream_of_ne {b b' : Broker} {i : Nat} {ch : Channel} (h : Passes [i] b b')
    (hij : i ≠ j) (hch : b.streams[j]? = some ch) (hopen : ch.Open)
    (htoken : b.tokens.isCancelled ch.token = false)
    (hother : ∀ {ch'}, b.streams[i]? = some ch' → ch'.token ≠ ch.token) :
    ∃ ch', b'.streams[j]? = some ch' ∧ ch'.token = ch.token ∧ ch'.queue = ch.queue ∧ ch'.Open ∧
      b'.tokens.isCancelled ch.token = false := by
  have htoken' : b'.tokens.isCancelled ch.token = false := by
    refine eq_false_of_ne_true fun hc => ?_
    rcases h.cause hc with hc | ⟨i', hi', ch', hch', e⟩
    · rw [htoken] at hc
      exact absurd hc (by decide)
    · obtain rfl := List.mem_singleton.1 hi'
      exact hother hch' e
  obtain ⟨ch', hch', same, hqueue, hopen'⟩ := h.stream hch
  have hnot : j ∉ [i] := fun hm => hij (List.mem_singleton.1 hm).symm
  exact ⟨ch', hch', same.token, hqueue hnot, hopen' htoken' hopen, htoken'⟩

/-- Once the event has come last into the queue of a stream, which is closed then, the rest of the
publication leaves it there. -/
theorem advance_delivered {b : Broker} {p : Publication} {rest : List Nat} {ch : Channel}
    (event : Event) (hj : j ∉ rest) (hch : b.streams[j]? = some ch) :
    Delivers j ch event (advance
      ((b.setStream j { ch with queue := ch.queue ++ [event] }).closeStream j) p rest) := by
  have hlt := (List.getElem?_eq_some_iff.1 hch).1
  refine .inr ⟨fun q hq hm => ?_, ?_, ?_⟩
  · exact hj (((advance_outcome _ _ rest).waiting hq).1.subset hm)
  · refine (Passes.advance _ _ rest).cancelled ?_
    simp [closeStream, setStream, stream?, hlt, cancel, Tokens.isCancelled_cancel]
  · have hclosed : ((b.setStream j { ch with queue := ch.queue ++ [event] }).closeStream
        j).streams[j]? = some ({ ch with queue := ch.queue ++ [event] } : Channel).close.dropSink := by
      simp [closeStream, setStream, stream?, hlt, cancel]
    obtain ⟨ch', hch', -, hqueue, -⟩ := (Passes.advance _ _ rest).stream hclosed
    exact ⟨ch', hch', hqueue hj⟩

/-- A publication that has come to an open stream gets its terminal event there. -/
theorem advance_delivers_here {b : Broker} {p : Publication} {rest : List Nat} {ch : Channel}
    (he : p.event.isTerminal = true) (hj : j ∉ rest) (hch : b.streams[j]? = some ch)
    (hopen : ch.Open) (htoken : b.tokens.isCancelled ch.token = false) :
    Delivers j ch p.event (advance b p (j :: rest)) := by
  rw [advance, stream?, hch]
  dsimp only
  rw [Channel.deliver_eq htoken hopen.hasStream, he]
  cases hfull : ch.isFull with
  | true => exact .inl ⟨_, rfl, List.mem_cons_self .., htoken, ch, hch, rfl⟩
  | false => exact advance_delivered p.event hj hch

/-- What a publication does at another stream first makes no difference. -/
theorem Delivers.of_passes {b b' : Broker} {event : Event} {i : Nat} {rest : List Nat} {ch : Channel}
    {r : (Publication ⊕ Nat) × Broker} (hpass : Passes [i] b b') (hij : i ≠ j)
    (hch : b.streams[j]? = some ch) (hopen : ch.Open)
    (htoken : b.tokens.isCancelled ch.token = false)
    (hother : ∀ k ∈ i :: rest, k ≠ j →
      ∀ {ch'}, b.streams[k]? = some ch' → ch'.token ≠ ch.token)
    (h : ∀ {ch'}, b'.streams[j]? = some ch' → ch'.Open → b'.tokens.isCancelled ch'.token = false →
      (∀ k ∈ rest, k ≠ j → ∀ {ch''}, b'.streams[k]? = some ch'' → ch''.token ≠ ch'.token) →
      Delivers j ch' event r) : Delivers j ch event r := by
  obtain ⟨ch', hch', htoken', hqueue', hopen', huncancelled⟩ :=
    hpass.stream_of_ne hij hch hopen htoken (hother i (List.mem_cons_self ..) hij)
  have hrest := h hch' hopen' (htoken' ▸ huncancelled) fun k hk hkj ch'' hch'' => by
    have hlt : k < b.streams.length := hpass.length ▸ (List.getElem?_eq_some_iff.1 hch'').1
    obtain ⟨ch₁, hch₁, same, -⟩ := hpass.stream (List.getElem?_eq_getElem hlt)
    obtain rfl : ch₁ = ch'' := Option.some.inj (hch₁.symm.trans hch'')
    rw [same.token, htoken']
    exact hother k (List.mem_cons_of_mem i hk) hkj (List.getElem?_eq_getElem hlt)
  rwa [Delivers, hqueue', htoken'] at hrest

/-- A terminal event that is published for an open stream gets there. -/
theorem advance_delivers {b : Broker} {p : Publication} {pending : List Nat} {ch : Channel}
    (he : p.event.isTerminal = true) (hj : j ∈ pending) (hnodup : pending.Nodup)
    (hch : b.streams[j]? = some ch) (hopen : ch.Open)
    (htoken : b.tokens.isCancelled ch.token = false)
    (hother : ∀ i ∈ pending, i ≠ j → ∀ {ch'}, b.streams[i]? = some ch' → ch'.token ≠ ch.token) :
    Delivers j ch p.event (advance b p pending) := by
  induction pending generalizing b p ch with
  | nil => exact absurd hj List.not_mem_nil
  | cons i rest ih =>
    obtain ⟨hi, hnodup⟩ := List.nodup_cons.1 hnodup
    by_cases hij : i = j
    · subst hij
      exact advance_delivers_here he hi hch hopen htoken
    · have hj' := (List.mem_cons.1 hj).resolve_left (Ne.symm hij)
      have skip : ∀ {b₁ : Broker} {p₁ : Publication}, Passes [i] b b₁ → p₁.event = p.event →
          Delivers j ch p.event (advance b₁ p₁ rest) := by
        intro b₁ p₁ hpass hevent
        refine .of_passes hpass hij hch hopen htoken hother fun hch₁ hopen₁ htoken₁ hother₁ => ?_
        rw [← hevent]
        exact ih (hevent ▸ he) hj' hnodup hch₁ hopen₁ htoken₁ hother₁
      rw [advance]
      split
      · exact skip (.refl _ b) rfl
      · next ch' hch' =>
        split
        · exact .inl ⟨_, rfl, hj, htoken, ch, hch, rfl⟩
        · exact skip (.closeStream b i) rfl
        · next ch₁ _ _ hdelivered =>
          obtain rfl : ch₁ = (ch'.deliver b.tokens p.event).2 := by rw [hdelivered]
          dsimp only
          rw [if_pos he]
          exact skip (.deliver_closeStream p.event hch') rfl

end TaskWatch.Broker
