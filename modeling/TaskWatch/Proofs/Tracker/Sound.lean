import TaskWatch.Proofs.Broker.Landing
import TaskWatch.Proofs.Tracker.Linked

/-!
# What every turn keeps

A tracker over a broker keeps its books in order, its watchers and streams together, and every stream
in its place: live for its task, or still to be reached by one publication, or neither
(`LocalTracker.Sound`). Streams keep their tasks, and one that is no longer live does not become so
again (`LocalTracker.Moves`).

* `Sound.step`, `Sound.turn`, `Sound.turns`: every step keeps all of this, whatever a publication
  that goes on notices first;
* `Sound.moves`: what becomes of streams in a turn.
-/

namespace TaskWatch

/-- The streams that publications under way have yet to come to. -/
def inFlight (publications : List PublicationState) : List Nat :=
  publications.flatMap Broker.pendingOf

/-- One publication among the others. -/
theorem inFlight_split {publications : List PublicationState} {i : Nat} {state : PublicationState}
    (hi : publications[i]? = some state) : ∃ before after,
      inFlight publications = before ++ (Broker.pendingOf state ++ after) ∧
      ∀ state', inFlight (publications.set i state') =
        before ++ (Broker.pendingOf state' ++ after) := by
  induction publications generalizing i with
  | nil => simp at hi
  | cons first rest ih =>
    cases i with
    | zero =>
      obtain rfl : first = state := by simpa using hi
      exact ⟨[], inFlight rest, rfl, fun _ => rfl⟩
    | succ i =>
      obtain ⟨before, after, hbefore, hset⟩ := ih hi
      refine ⟨Broker.pendingOf first ++ before, after, ?_, fun state' => ?_⟩
      · rw [List.append_assoc, ← hbefore]
        rfl
      · rw [List.append_assoc, ← hset state']
        rfl

namespace Tracker

/-- What a tracker over a broker keeps, while publications have yet to come to some streams. -/
structure Sound (t : Tracker Broker) (pending : List Nat) : Prop where
  kept : t.Kept
  links : t.Links
  filed : t.source.Filed pending

theorem Forgets.same {σ : Type} {t t' : Tracker σ} (h : Forgets t t') :
    t'.source = t.source ∧ t'.watchers = t.watchers ∧ t'.cells = t.cells := by
  rw [h.frame]
  exact ⟨rfl, rfl, rfl⟩

namespace Sound

variable {t t' : Tracker Broker} {pending : List Nat}

theorem change {actor : Option Nat} (h : t.Sound pending) (hc : Change actor t t') :
    t'.Sound pending where
  kept := h.kept.change hc
  links := h.links.change h.kept hc
  filed := by
    rcases hc.source with ⟨hg, hlive⟩ | ⟨v, -, -, -, e⟩
    · exact h.filed.grows hg hlive
    · rw [e]
      exact h.filed.prune.opened v.taskId v.token

theorem changes {actor : Option Nat} (h : t.Sound pending) (hc : Changes actor t t') :
    t'.Sound pending := by
  induction hc with
  | refl => exact h
  | tail _ hc ih => exact ih.change hc

theorem forgets (h : t.Sound pending) (hf : Forgets t t') : t'.Sound pending := by
  obtain ⟨hsource, hwatchers, hcells⟩ := hf.same
  refine ⟨h.kept.forgets hf, ?_, hsource ▸ h.filed⟩
  rw [Links, hsource, hwatchers, hcells]
  exact h.links

theorem step (h : t.Sound pending) (s : TrackerStep) : (t.step s).Sound pending := by
  obtain ⟨u, hf, hc⟩ | ⟨millis, rfl⟩ := t.step_cases s
  · exact (h.forgets hf).changes hc
  · exact ⟨h.kept, h.links, h.filed⟩

/-- The broker changes, but opens no stream. -/
theorem source (h : t.Sound pending) {b : Broker} (hg : t.source.Grows b) {pending' : List Nat}
    (hfiled : b.Filed pending') : Sound { t with source := b } pending' :=
  ⟨h.kept, h.links.grows hg, hfiled⟩

end Sound

end Tracker

namespace LocalTracker

/-- What every step of a tracker over a broker keeps. -/
structure Sound (t : LocalTracker) : Prop where
  tracker : t.tracker.Sound (inFlight t.publications)
  /-- Only terminal events have to wait, and they give no stream back. -/
  waits : ∀ p, .inl p ∈ t.publications → p.event.isTerminal = true ∧ p.kept = []

theorem publish_eq (t : LocalTracker) (taskId : String) (event : Event) :
    t.publish taskId event = { t.withBroker (t.tracker.source.publication taskId event).2 with
      publications := t.publications ++ [(t.tracker.source.publication taskId event).1] } := by
  simp [LocalTracker.publish, LocalTracker.resume, withBroker, Broker.publication]

theorem resume_eq {t : LocalTracker} {i : Nat} {p : Publication}
    (hi : t.publications[i]? = some (.inl p)) :
    t.resume i = { t.withBroker (Broker.advance t.tracker.source p p.pending).2 with
      publications :=
        t.publications.set i (Broker.advance t.tracker.source p p.pending).1 } := by
  rw [LocalTracker.resume, hi]
  rfl

theorem resume_of_ne {t : LocalTracker} {i : Nat}
    (hi : ∀ p, t.publications[i]? ≠ some (.inl p)) : t.resume i = t := by
  unfold LocalTracker.resume
  split
  · next p hp => exact absurd hp (hi p)
  · rfl

theorem land_eq {t : LocalTracker} {i : Nat} {p : Publication}
    (hi : t.publications[i]? = some (.inl p)) :
    t.land i = { t.withBroker (t.tracker.source.land p).2 with
      publications := t.publications.set i (t.tracker.source.land p).1 } := by
  rw [LocalTracker.land, hi]

theorem land_of_ne {t : LocalTracker} {i : Nat}
    (hi : ∀ p, t.publications[i]? ≠ some (.inl p)) : t.land i = t := by
  unfold LocalTracker.land
  split
  · next p hp => exact absurd hp (hi p)
  · rfl

/-- The publication that a turn goes on with. -/
def Turn.goesOn : Turn → Option Nat
  | .step (.resume i) | .land i => some i
  | .step _ => none

/-- A turn that goes on with a publication which is under way. -/
theorem turn_goesOn {t : LocalTracker} {r : Turn} {i : Nat} {p : Publication}
    (hr : r.goesOn = some i) (hi : t.publications[i]? = some (.inl p)) :
    ∃ b, Broker.GoesOn t.tracker.source p b ∧
      t.turn r = { t.withBroker b.2 with publications := t.publications.set i b.1 } := by
  cases r with
  | land i' =>
    obtain rfl := Option.some.inj hr
    exact ⟨_, .inr rfl, land_eq hi⟩
  | step s =>
    cases s with
    | resume i' =>
      obtain rfl := Option.some.inj hr
      exact ⟨_, .inl rfl, resume_eq hi⟩
    | _ => cases hr

theorem turn_goesOn_of_ne {t : LocalTracker} {r : Turn} {i : Nat} (hr : r.goesOn = some i)
    (hi : ∀ p, t.publications[i]? ≠ some (.inl p)) : t.turn r = t := by
  cases r with
  | land i' =>
    obtain rfl := Option.some.inj hr
    exact land_of_ne hi
  | step s =>
    cases s with
    | resume i' =>
      obtain rfl := Option.some.inj hr
      exact resume_of_ne hi
    | _ => cases hr

namespace Sound

variable {t : LocalTracker}

theorem publish (h : t.Sound) (taskId : String) (event : Event) :
    (t.publish taskId event).Sound := by
  have hgrows := (t.tracker.source.publication_passes taskId event).grows
  have houtcome := t.tracker.source.publication_outcome taskId event
  rw [publish_eq]
  refine ⟨h.tracker.source hgrows (h.tracker.filed.of_subperm hgrows ?_ ?_), fun q hq => ?_⟩
  · -- What the publication does not give back it has taken from the live streams.
    have htaken := houtcome.subperm.trans (List.perm_append_comm.subperm.trans
      (t.tracker.source.held_withoutTask taskId))
    rw [inFlight, List.flatMap_append, List.flatMap_singleton]
    refine (List.Perm.subperm ?_).trans ((List.subperm_append_right (inFlight t.publications)).2
      htaken)
    rw [List.append_assoc]
    exact List.perm_append_comm.append_left _
  · refine houtcome.files ((h.tracker.filed.live.withoutTask taskId).mono fun _ _ h => h.2)
      fun j hj => ?_
    exact h.tracker.filed.live.liveStreams hj
  · rcases List.mem_append.1 hq with hq | hq
    · exact h.waits q hq
    · obtain ⟨-, hevent, hkept, hterminal⟩ := houtcome.waiting (List.mem_singleton.1 hq).symm
      exact ⟨hevent ▸ hterminal, hkept⟩

/-- A publication goes on. -/
theorem goesOn (h : t.Sound) {r : Turn} {i : Nat} (hr : r.goesOn = some i) : (t.turn r).Sound := by
  by_cases hi : ∃ p, t.publications[i]? = some (.inl p)
  · obtain ⟨p, hi⟩ := hi
    obtain ⟨b, hgoes, e⟩ := turn_goesOn hr hi
    obtain ⟨hterminal, hkept⟩ := h.waits p (List.mem_of_getElem? hi)
    obtain ⟨before, after, hflight, hset⟩ := inFlight_split hi
    rw [e]
    refine ⟨h.tracker.source hgoes.passes.grows (h.tracker.filed.of_subperm hgoes.passes.grows ?_
      (h.tracker.filed.live.of_live (hgoes.outcome.live_eq hterminal hkept))), fun q hq => ?_⟩
    · have hmoved := hgoes.outcome.subperm
      rw [hkept, List.nil_append] at hmoved
      rw [hset, hflight]
      exact subperm_append_middle before after hmoved
    · rcases List.mem_or_eq_of_mem_set hq with hq | hq
      · exact h.waits q hq
      · obtain ⟨-, hevent, hkept', -⟩ := hgoes.outcome.waiting hq.symm
        exact ⟨hevent ▸ hterminal, hkept'.trans hkept⟩
  · rwa [turn_goesOn_of_ne hr fun p hp => hi ⟨p, hp⟩]

theorem close (h : t.Sound) (taskId : String) : (t.step (.close taskId)).Sound where
  tracker := by
    have hpass := Broker.Passes.close t.tracker.source taskId
    refine h.tracker.source hpass.grows (h.tracker.filed.of_subperm hpass.grows ?_
      (h.tracker.filed.live.close taskId))
    exact (List.subperm_append_right _).2 (t.tracker.source.held_close taskId)
  waits := h.waits

theorem reject (h : t.Sound) (taskId message : String) :
    (t.step (.reject taskId message)).Sound where
  tracker := by
    have hpass : Broker.Passes [] t.tracker.source (t.tracker.source.reject taskId message) :=
      .of_eq (by rfl) (by rfl) (by rfl) []
    exact h.tracker.source hpass.grows (h.tracker.filed.grows hpass.grows rfl)
  waits := h.waits

/-- Every step keeps everything in its place. -/
theorem step (h : t.Sound) (s : Step) : (t.step s).Sound := by
  cases s with
  | tracker s => exact ⟨h.tracker.step s, h.waits⟩
  | publish taskId event => exact h.publish taskId event
  | resume i => exact h.goesOn (r := .step (.resume i)) rfl
  | close taskId => exact h.close taskId
  | reject taskId message => exact h.reject taskId message

theorem new (config : TrackerConfig) (catalog : Catalog) (runtime : Bool) (capacity : Nat) :
    (LocalTracker.new config catalog runtime capacity).Sound where
  tracker := ⟨Tracker.kept_new _ _ _ _, .empty _ rfl,
    ⟨List.nodup_nil, fun _ _ h => absurd h List.not_mem_nil, fun _ h => absurd h List.not_mem_nil⟩⟩
  waits _ h := absurd h List.not_mem_nil

theorem turn (h : t.Sound) (r : Turn) : (t.turn r).Sound := by
  cases r with
  | step s => exact h.step s
  | land i => exact h.goesOn (r := .land i) rfl

theorem turns (h : t.Sound) (rs : List Turn) : (t.turns rs).Sound := by
  induction rs generalizing t with
  | nil => exact h
  | cons r rs ih => exact ih (h.turn r)

end Sound

/-! ## What becomes of streams -/

/-- Streams keep their tasks and tokens, and one that is not live, or has been reached by all
publications, stays so. -/
structure Moves (t t' : LocalTracker) : Prop where
  length : t.tracker.source.streams.length ≤ t'.tracker.source.streams.length
  stream : ∀ {i : Nat} {ch}, t.tracker.source.streams[i]? = some ch →
    ∃ ch', t'.tracker.source.streams[i]? = some ch' ∧ Channel.Same ch ch'
  held : ∀ i ∈ t'.tracker.source.held,
    i ∈ t.tracker.source.held ∨ t.tracker.source.streams.length ≤ i
  placed : ∀ i ∈ t'.tracker.source.held ++ inFlight t'.publications,
    i ∈ t.tracker.source.held ++ inFlight t.publications ∨
      t.tracker.source.streams.length ≤ i

namespace Moves

variable {t t' t'' : LocalTracker}

theorem refl (t : LocalTracker) : Moves t t :=
  ⟨Nat.le_refl _, fun h => ⟨_, h, .refl _⟩, fun _ h => .inl h, fun _ h => .inl h⟩

theorem trans (h : Moves t t') (h' : Moves t' t'') : Moves t t'' where
  length := Nat.le_trans h.length h'.length
  stream hi := by
    obtain ⟨ch', hi', same⟩ := h.stream hi
    obtain ⟨ch'', hi'', same'⟩ := h'.stream hi'
    exact ⟨ch'', hi'', same.trans same'⟩
  held i hi := by
    rcases h'.held i hi with hi | hi
    · exact h.held i hi
    · exact .inr (Nat.le_trans h.length hi)
  placed i hi := by
    rcases h'.placed i hi with hi | hi
    · exact h.placed i hi
    · exact .inr (Nat.le_trans h.length hi)

/-- No stream is opened, and what is live was so before. -/
theorem of_grows (hg : t.tracker.source.Grows t'.tracker.source)
    (hheld : t'.tracker.source.held ⊆ t.tracker.source.held)
    (hplaced : t'.tracker.source.held ++ inFlight t'.publications ⊆
      t.tracker.source.held ++ inFlight t.publications) : Moves t t' where
  length := Nat.le_of_eq hg.length.symm
  stream hi := by
    obtain ⟨ch', hi', same, -⟩ := hg.stream hi
    exact ⟨ch', hi', same⟩
  held _ hi := .inl (hheld hi)
  placed _ hi := .inl (hplaced hi)

/-- A change of the tracker leaves the publications alone. -/
theorem of_change {actor : Option Nat} {u u' : Tracker Broker} (hc : u.Change actor u')
    (publications : List PublicationState) : Moves ⟨u, publications⟩ ⟨u', publications⟩ := by
  rcases hc.source with ⟨hg, hlive⟩ | ⟨v, -, -, -, e⟩
  · have same : u'.source.held = u.source.held := by rw [Broker.held, Broker.held, hlive]
    exact of_grows hg (by rw [same]; exact fun _ h => h) (by rw [same]; exact fun _ h => h)
  · have hlength : u.source.prune.streams.length = u.source.streams.length :=
      (Broker.Passes.prune u.source).length
    have held : ∀ i ∈ u'.source.held, i ∈ u.source.held ∨ u.source.streams.length ≤ i := by
      intro i hi
      rw [e] at hi
      rcases List.mem_append.1 ((Broker.held_addLive _ _ _).subset hi) with hi | hi
      · exact .inl (u.source.held_prune.subset hi)
      · exact .inr (Nat.le_of_eq ((List.mem_singleton.1 hi).trans hlength).symm)
    refine ⟨?_, fun {i ch} hi => ?_, held, fun i hi => ?_⟩
    · show u.source.streams.length ≤ u'.source.streams.length
      rw [e, Broker.streams_opened, List.length_append]
      omega
    · obtain ⟨ch', hi', same, -⟩ := (Broker.Passes.prune u.source).stream hi
      refine ⟨ch', ?_, same⟩
      show u'.source.streams[i]? = some ch'
      rw [e, Broker.streams_opened, List.getElem?_append_left (List.getElem?_eq_some_iff.1 hi').1, hi']
    · rcases List.mem_append.1 hi with hi | hi
      · exact (held i hi).imp_left (List.mem_append_left _)
      · exact .inl (List.mem_append_right _ hi)

theorem of_changes {actor : Option Nat} {u u' : Tracker Broker} (hc : Tracker.Changes actor u u')
    (publications : List PublicationState) : Moves ⟨u, publications⟩ ⟨u', publications⟩ := by
  induction hc with
  | refl => exact refl _
  | tail _ hc ih => exact ih.trans (of_change hc publications)

theorem of_tracker_step (t : LocalTracker) (s : TrackerStep) : Moves t (t.step (.tracker s)) := by
  obtain ⟨u, hf, hc⟩ | ⟨millis, rfl⟩ := t.tracker.step_cases s
  · have first : Moves t ⟨u, t.publications⟩ := by
      have same := hf.same.1
      refine of_grows ?_ ?_ ?_ <;> dsimp only <;> rw [same]
      · exact (Broker.Passes.refl [] _).grows
      · exact fun _ h => h
      · exact fun _ h => h
    exact first.trans (of_changes hc t.publications)
  · exact of_grows (Broker.Passes.refl [] _).grows (fun _ h => h) fun _ h => h

end Moves

/-- A publication goes on. -/
theorem Sound.moves_goesOn {t : LocalTracker} (h : t.Sound) {r : Turn} {i : Nat}
    (hr : r.goesOn = some i) : Moves t (t.turn r) := by
  by_cases hi : ∃ p, t.publications[i]? = some (.inl p)
  · obtain ⟨p, hi⟩ := hi
    obtain ⟨b, hgoes, e⟩ := turn_goesOn hr hi
    obtain ⟨hterminal, hkept⟩ := h.waits p (List.mem_of_getElem? hi)
    obtain ⟨before, after, hflight, hset⟩ := inFlight_split hi
    have hlive := hgoes.outcome.live_eq hterminal hkept
    have hsub := hgoes.outcome.subperm
    rw [hkept, List.nil_append] at hsub
    rw [e]
    refine .of_grows hgoes.passes.grows (fun j hj => ?_) fun j hj => ?_
    · rwa [Broker.held, ← hlive]
    · rw [hset] at hj
      rw [hflight]
      exact (subperm_append_middle before after hsub).subset hj
  · rw [turn_goesOn_of_ne hr fun p hp => hi ⟨p, hp⟩]
    exact .refl t

theorem Sound.moves_step {t : LocalTracker} (h : t.Sound) (s : Step) : Moves t (t.step s) := by
  cases s with
  | tracker s => exact .of_tracker_step t s
  | publish taskId event =>
    have hgrows := (t.tracker.source.publication_passes taskId event).grows
    have hsub := (t.tracker.source.publication_outcome taskId event).subperm.trans
      (List.perm_append_comm.subperm.trans (t.tracker.source.held_withoutTask taskId))
    have hplaced := hsub.subset
    show Moves t (t.publish taskId event)
    rw [publish_eq]
    refine .of_grows hgrows (fun i hi => hplaced (List.mem_append_left _ hi)) fun i hi => ?_
    rcases List.mem_append.1 hi with hi | hi
    · exact List.mem_append_left _ (hplaced (List.mem_append_left _ hi))
    · rw [inFlight, List.flatMap_append, List.flatMap_singleton] at hi
      rcases List.mem_append.1 hi with hi | hi
      · exact List.mem_append_right _ hi
      · exact List.mem_append_left _ (hplaced (List.mem_append_right _ hi))
  | resume i => exact h.moves_goesOn (r := .step (.resume i)) rfl
  | close taskId =>
    have hheld := (t.tracker.source.held_close taskId).subset
    refine .of_grows (Broker.Passes.close t.tracker.source taskId).grows hheld fun i hi => ?_
    rcases List.mem_append.1 hi with hi | hi
    · exact List.mem_append_left _ (hheld hi)
    · exact List.mem_append_right _ hi
  | reject taskId message =>
    have hpass : Broker.Passes [] t.tracker.source (t.tracker.source.reject taskId message) :=
      .of_eq (by rfl) (by rfl) (by rfl) []
    exact .of_grows hpass.grows (fun _ h => h) fun _ h => h

/-- What becomes of streams in a turn. -/
theorem Sound.moves {t : LocalTracker} (h : t.Sound) (r : Turn) : Moves t (t.turn r) := by
  cases r with
  | step s => exact h.moves_step s
  | land i => exact h.moves_goesOn (r := .land i) rfl

theorem Sound.moves_turns {t : LocalTracker} (h : t.Sound) (rs : List Turn) :
    Moves t (t.turns rs) := by
  induction rs generalizing t with
  | nil => exact .refl t
  | cons r rs ih => exact (h.moves r).trans (ih (h.turn r))

end LocalTracker

end TaskWatch
