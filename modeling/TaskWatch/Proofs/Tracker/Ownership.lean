import TaskWatch.Proofs.Tracker.Heed

/-!
# Sources that cancel their own streams only

A source cancels no tokens but those its streams were opened under (`OwningSource`). A broker and a
daemon are such sources: a broker closes the streams it has, and the producer of a daemon's stream
knows one token only (`Feed.Owns`).
-/

namespace TaskWatch

/-- Only tokens of a list are cancelled. -/
def Tokens.CancelsOnly (owned : List Token) (a b : Tokens) : Prop :=
  ∀ token, b.isCancelled token = true → a.isCancelled token = true ∨ token ∈ owned

namespace Tokens.CancelsOnly

variable {owned : List Token} {a b c : Tokens}

theorem refl (owned : List Token) (a : Tokens) : CancelsOnly owned a a := fun _ h => .inl h

theorem trans (h : CancelsOnly owned a b) (h' : CancelsOnly owned b c) : CancelsOnly owned a c := by
  intro token hc
  obtain hc | hc := h' token hc
  · exact h token hc
  · exact .inr hc

theorem cancel {token : Token} (h : token ∈ owned) (a : Tokens) :
    CancelsOnly owned a (a.cancel token) := by
  intro u hc
  rw [isCancelled_cancel, Bool.or_eq_true, beq_iff_eq] at hc
  obtain rfl | hc := hc
  · exact .inr h
  · exact .inl hc

/-- A token of no such stream is left alone. -/
theorem uncancelled (h : CancelsOnly owned a b) {token : Token} (hnot : token ∉ owned)
    (hc : a.isCancelled token = false) : b.isCancelled token = false := by
  refine eq_false_of_ne_true fun hc' => ?_
  obtain hc' | hm := h token hc'
  · exact absurd (hc.symm.trans hc') (by decide)
  · exact hnot hm

end Tokens.CancelsOnly

/-- A source whose streams have the tokens they were opened under, and which cancels no others. -/
class OwningSource (σ : Type) [WatchSource σ] extends HeedfulSource σ where
  /-- The tokens of all streams opened so far. -/
  owned : σ → List Token
  owned_withTokens (source : σ) (tokens : Tokens) :
    owned (WatchSource.withTokens source tokens) ⊆ owned source
  owned_opened {source source' : σ} {taskId : String} {token : Token} {stream : Nat}
    (h : WatchSource.openWatch source taskId token = (.ok stream, source')) :
    owned source' ⊆ token :: owned source
  owned_refused {source source' : σ} {taskId : String} {token : Token} {e : ClientError}
    (h : WatchSource.openWatch source taskId token = (.error e, source')) :
    owned source' ⊆ owned source
  owned_takeEvents (source : σ) (stream : Nat) :
    owned (WatchSource.takeEvents source stream).2.2 ⊆ owned source
  owned_release (source : σ) (stream : Nat) :
    owned (WatchSource.release source stream) ⊆ owned source
  cancels_openWatch (source : σ) (taskId : String) (token : Token) :
    (WatchSource.tokens source).CancelsOnly (owned source)
      (WatchSource.tokens (WatchSource.openWatch source taskId token).2)
  cancels_takeEvents (source : σ) (stream : Nat) :
    (WatchSource.tokens source).CancelsOnly (owned source)
      (WatchSource.tokens (WatchSource.takeEvents source stream).2.2)
  cancels_release (source : σ) (stream : Nat) :
    (WatchSource.tokens source).CancelsOnly (owned source)
      (WatchSource.tokens (WatchSource.release source stream))

/-! ## Brokers and daemons -/

namespace Broker

variable {b b' : Broker} {touched : List Nat}

/-- The tokens of all streams. -/
def streamTokens (b : Broker) : List Token := b.streams.map (·.token)

/-- A change of a broker that opens no stream leaves the tokens of streams as they are. -/
theorem Grows.streamTokens (h : b.Grows b') : b'.streamTokens ⊆ b.streamTokens := by
  intro token hm
  obtain ⟨ch', hch', rfl⟩ := List.mem_map.1 hm
  obtain ⟨i, hi⟩ := List.mem_iff_getElem?.1 hch'
  obtain ⟨ch, hch, same, -⟩ := h.stream_before hi
  exact List.mem_map.2 ⟨ch, List.mem_of_getElem? hch, same.token.symm⟩

theorem Passes.cancelsOnly (h : Passes touched b b') :
    b.tokens.CancelsOnly b.streamTokens b'.tokens := by
  intro token hc
  obtain hc | ⟨i, -, ch, hch, rfl⟩ := h.cause hc
  · exact .inl hc
  · exact .inr (List.mem_map.2 ⟨ch, List.mem_of_getElem? hch, rfl⟩)

end Broker

instance : OwningSource Broker where
  owned := Broker.streamTokens
  owned_withTokens _ _ := List.Subset.refl _
  owned_opened {b _ taskId token _} h := by
    obtain ⟨-, -, rfl⟩ := Broker.watch_eq_ok h
    intro u hm
    rw [Broker.streamTokens, Broker.streams_opened, List.map_append] at hm
    obtain hm | hm := List.mem_append.1 hm
    · exact List.mem_cons_of_mem _ ((Broker.Passes.prune b).grows.streamTokens hm)
    · exact List.mem_cons.2 (.inl (List.mem_singleton.1 hm))
  owned_refused h := by
    obtain ⟨rejections, rfl⟩ := Broker.watch_eq_error h
    exact List.Subset.refl _
  owned_takeEvents b j := (Broker.Passes.takeEvents b j).grows.streamTokens
  owned_release b j := (Broker.Passes.dropStream b j).grows.streamTokens
  cancels_openWatch b taskId token := by
    show b.tokens.CancelsOnly b.streamTokens (b.watch taskId token).2.tokens
    rcases hopen : b.watch taskId token with ⟨answer, b'⟩
    cases answer with
    | error e =>
      obtain ⟨rejections, rfl⟩ := Broker.watch_eq_error hopen
      exact .refl _ b.tokens
    | ok j =>
      obtain ⟨-, -, rfl⟩ := Broker.watch_eq_ok hopen
      dsimp only
      rw [Broker.tokens_opened]
      exact (Broker.Passes.prune b).cancelsOnly
  cancels_takeEvents b j := (Broker.Passes.takeEvents b j).cancelsOnly
  cancels_release b j := (Broker.Passes.dropStream b j).cancelsOnly

namespace Feed

/-- A producer keeps the token of its channel and cancels no other. -/
structure Owns (feed : Feed) (tokens : Tokens) (r : Feed × Tokens) : Prop where
  token : r.1.channel.token = feed.channel.token
  cancels : tokens.CancelsOnly [feed.channel.token] r.2

namespace Owns

variable {feed feed' : Feed} {tokens tokens' : Tokens} {r : Feed × Tokens}

theorem of_eq (h : r.1.channel.token = feed.channel.token) (htokens : r.2 = tokens) :
    feed.Owns tokens r := by
  subst htokens
  exact ⟨h, .refl _ r.2⟩

theorem trans (h : feed.Owns tokens (feed', tokens')) (h' : feed'.Owns tokens' r) :
    feed.Owns tokens r := by
  have htoken : feed'.channel.token = feed.channel.token := h.token
  exact ⟨h'.token.trans htoken, h.cancels.trans (htoken ▸ h'.cancels)⟩

theorem stop (feed : Feed) (tokens : Tokens) : feed.Owns tokens (feed.stop tokens) :=
  ⟨rfl, .cancel (List.mem_singleton_self _) tokens⟩

theorem deliver (feed : Feed) (tokens : Tokens) (event : Event) :
    feed.Owns tokens (feed.deliver tokens event) := by
  have same := (Channel.Same.deliver feed.channel tokens event).token
  unfold Feed.deliver
  split
  · exact of_eq rfl rfl
  · exact stop feed tokens
  · next channel _ _ hdelivered =>
    rw [hdelivered] at same
    have taken : feed.Owns tokens ({ feed with channel := channel }, tokens) := of_eq same rfl
    dsimp only
    split
    · exact taken.trans (stop _ tokens)
    · exact taken

theorem step (feed : Feed) (tokens : Tokens) : feed.Owns tokens (feed.step tokens) := by
  unfold Feed.step
  split
  · exact of_eq rfl rfl
  · split
    · exact stop feed tokens
    · split
      · exact deliver feed tokens _
      · split
        · exact stop feed tokens
        · exact of_eq rfl rfl
      · next line rest _ _ =>
        have read : feed.Owns tokens ({ feed with lines := rest }, tokens) := of_eq rfl rfl
        dsimp only
        split
        · exact read.trans (deliver _ tokens _)
        · exact read

theorem steps (n : Nat) (feed : Feed) (tokens : Tokens) :
    feed.Owns tokens (feed.steps n tokens) := by
  induction n generalizing feed tokens with
  | zero => exact of_eq rfl rfl
  | succ n ih => exact (step feed tokens).trans (ih _ _)

theorem takeQueued (feed : Feed) (tokens : Tokens) :
    feed.Owns tokens (feed.takeQueued tokens).2 :=
  (steps (feed.lines.length + 1) feed tokens).trans (of_eq rfl rfl)

theorem takeAll (feed : Feed) (tokens : Tokens) : feed.Owns tokens (feed.takeAll tokens).2 :=
  (takeQueued feed tokens).trans (takeQueued _ _)

end Owns

end Feed

namespace DaemonSource

/-- The tokens of all streams. -/
def streamTokens (s : DaemonSource) : List Token := s.feeds.map (·.channel.token)

/-- One stream goes on. -/
theorem streamTokens_set {s : DaemonSource} {i : Nat} {feed feed' : Feed}
    (hi : s.feeds[i]? = some feed) (h : feed'.channel.token = feed.channel.token) :
    (s.feeds.set i feed').map (·.channel.token) = s.streamTokens := map_set_of_eq hi h

theorem mem_streamTokens {s : DaemonSource} {i : Nat} {feed : Feed}
    (hi : s.feeds[i]? = some feed) : feed.channel.token ∈ s.streamTokens :=
  List.mem_map.2 ⟨feed, List.mem_of_getElem? hi, rfl⟩

end DaemonSource

/-- A stream of a daemon has the token it was opened under. -/
theorem Client.token_openWatch {client : Client} {taskId : String} {capacity : Nat} {token : Token}
    {tokens : Tokens} {net net' : Network} {feed : Feed}
    (h : client.openWatch taskId capacity token tokens net = (.ok feed, net')) :
    feed.channel.token = token := by
  unfold openWatch at h
  split at h
  · cases h
  · split at h
    · cases h
    · next id _ _ =>
      dsimp only at h
      cases hopened : (client.withConnection client.options.maxStreamLineBytes
          (client.requestWatch id) net).1 with
      | error e =>
        rw [hopened] at h
        cases h
      | ok opened =>
        rw [hopened] at h
        obtain rfl := Except.ok.inj (congrArg Prod.fst h)
        rfl

instance : OwningSource DaemonSource where
  owned := DaemonSource.streamTokens
  owned_withTokens _ _ := List.Subset.refl _
  owned_opened {s s' taskId token stream} h := by
    have h : s.openWatch taskId token = (.ok stream, s') := h
    unfold DaemonSource.openWatch at h
    split at h
    · cases h
    · split at h
      · cases h
      · next hopened =>
        obtain rfl := congrArg Prod.snd h
        have htoken := Client.token_openWatch hopened
        intro u hm
        rw [DaemonSource.streamTokens, List.map_append] at hm
        obtain hm | hm := List.mem_append.1 hm
        · exact List.mem_cons_of_mem _ hm
        · exact List.mem_cons.2 (.inl ((List.mem_singleton.1 hm).trans htoken))
  owned_refused {s s' taskId token e} h := by
    have h : s.openWatch taskId token = (.error e, s') := h
    unfold DaemonSource.openWatch at h
    split at h
    · obtain rfl := congrArg Prod.snd h
      exact List.Subset.refl _
    · split at h
      · obtain rfl := congrArg Prod.snd h
        exact List.Subset.refl _
      · cases h
  owned_takeEvents s j := by
    show (s.takeEvents j).2.2.streamTokens ⊆ s.streamTokens
    unfold DaemonSource.takeEvents
    split
    · exact List.Subset.refl _
    · next feed hj =>
      have same := DaemonSource.streamTokens_set hj (Feed.Owns.takeAll feed s.tokens).token
      exact same ▸ List.Subset.refl _
  owned_release s j := by
    show (s.release j).streamTokens ⊆ s.streamTokens
    unfold DaemonSource.release
    split
    · exact List.Subset.refl _
    · next feed hj =>
      have same : (s.feeds.set j { feed with channel := feed.channel.dropStream }).map
          (·.channel.token) = s.streamTokens := DaemonSource.streamTokens_set hj rfl
      exact same ▸ List.Subset.refl _
  cancels_openWatch s taskId token := by
    show s.tokens.CancelsOnly s.streamTokens (s.openWatch taskId token).2.tokens
    rw [DaemonSource.tokens_openWatch]
    exact .refl _ s.tokens
  cancels_takeEvents s j := by
    show s.tokens.CancelsOnly s.streamTokens (s.takeEvents j).2.2.tokens
    unfold DaemonSource.takeEvents
    split
    · exact .refl _ s.tokens
    · next feed hj =>
      intro token hc
      refine ((Feed.Owns.takeAll feed s.tokens).cancels token hc).imp_right fun hm => ?_
      rw [List.mem_singleton.1 hm]
      exact DaemonSource.mem_streamTokens hj
  cancels_release s j := by
    show s.tokens.CancelsOnly s.streamTokens (s.release j).tokens
    unfold DaemonSource.release
    split
    · exact .refl _ s.tokens
    · next feed hj => exact .cancel (DaemonSource.mem_streamTokens hj) s.tokens

end TaskWatch
