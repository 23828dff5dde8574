import TaskWatch.Proofs.Broker.Streams
import TaskWatch.Proofs.Tracker.Receipt
import TaskWatch.Proofs.Tracker.Sources

/-!
# Sources that heed a cancellation

A cancelled token stays cancelled, and a source opens nothing under it. Brokers and daemons are such
sources (`HeedfulSource`), so a watcher that was cancelled finishes as soon as it is polled, whether
it has its stream already or not (`Tracker.poll_cancelled`).
-/

namespace TaskWatch

/-! ## Tokens -/

namespace Tokens

/-- Tokens are handed out and cancelled, and nothing else becomes of them. -/
structure Grows (a b : Tokens) : Prop where
  issued : a.issued ≤ b.issued
  cancelled : ∀ {token}, a.isCancelled token = true → b.isCancelled token = true

namespace Grows

variable {a b c : Tokens}

theorem refl (a : Tokens) : Grows a a := ⟨Nat.le_refl _, fun h => h⟩

theorem trans (h : Grows a b) (h' : Grows b c) : Grows a c :=
  ⟨Nat.le_trans h.issued h'.issued, fun hc => h'.cancelled (h.cancelled hc)⟩

theorem issue (a : Tokens) : Grows a a.issue := ⟨Nat.le_succ _, fun h => h⟩

theorem cancelAny (a : Tokens) (held : Option Token) : Grows a (a.cancelAny held) where
  issued := Nat.le_of_eq (issued_cancelAny a held).symm
  cancelled hc := by rw [isCancelled_cancelAny, hc, Bool.or_true]

theorem cancel (a : Tokens) (token : Token) : Grows a (a.cancel token) := cancelAny a (some token)

end Grows

end Tokens

theorem Broker.Grows.tokens {b b' : Broker} (h : b.Grows b') : b.tokens.Grows b'.tokens :=
  ⟨h.issued, h.cancelled⟩

/-! ## Feeds -/

namespace Feed

theorem grows_deliver (feed : Feed) (tokens : Tokens) (event : Event) :
    tokens.Grows (feed.deliver tokens event).2 := by
  unfold deliver
  split
  · exact .refl tokens
  · exact .cancel tokens _
  · dsimp only
    split
    · exact .cancel tokens _
    · exact .refl tokens

theorem grows_step (feed : Feed) (tokens : Tokens) : tokens.Grows (feed.step tokens).2 := by
  unfold step
  split
  · exact .refl tokens
  · split
    · exact .cancel tokens _
    · split
      · exact grows_deliver feed tokens _
      · split
        · exact .cancel tokens _
        · exact .refl tokens
      · dsimp only
        split
        · exact grows_deliver _ tokens _
        · exact .refl tokens

theorem grows_steps (n : Nat) (feed : Feed) (tokens : Tokens) :
    tokens.Grows (feed.steps n tokens).2 := by
  induction n generalizing feed tokens with
  | zero => exact .refl tokens
  | succ n ih => exact (grows_step feed tokens).trans (ih _ _)

theorem grows_run (feed : Feed) (tokens : Tokens) : tokens.Grows (feed.run tokens).2 :=
  grows_steps _ feed tokens

theorem grows_takeAll (feed : Feed) (tokens : Tokens) : tokens.Grows (feed.takeAll tokens).2.2 :=
  (grows_run feed tokens).trans (grows_run { (feed.run tokens).1 with
    channel := { (feed.run tokens).1.channel with queue := [] } } _)

end Feed

/-! ## Sources -/

/-- A source that never takes a cancellation back, and opens nothing under a cancelled token. -/
class HeedfulSource (σ : Type) [WatchSource σ] : Prop extends LawfulSource σ where
  grows_openWatch (source : σ) (taskId : String) (token : Token) :
    (WatchSource.tokens source).Grows
      (WatchSource.tokens (WatchSource.openWatch source taskId token).2)
  grows_takeEvents (source : σ) (stream : Nat) :
    (WatchSource.tokens source).Grows
      (WatchSource.tokens (WatchSource.takeEvents source stream).2.2)
  grows_release (source : σ) (stream : Nat) :
    (WatchSource.tokens source).Grows (WatchSource.tokens (WatchSource.release source stream))
  refuses (source : σ) (taskId : String) (token : Token)
    (h : (WatchSource.tokens source).isCancelled token = true) :
    ∃ e, (WatchSource.openWatch source taskId token).1 = .error e

namespace Broker

theorem grows_watch (b : Broker) (taskId : String) (token : Token) :
    b.tokens.Grows (b.watch taskId token).2.tokens := by
  rcases hopen : b.watch taskId token with ⟨answer, b'⟩
  cases answer with
  | error e =>
    obtain ⟨rejections, rfl⟩ := watch_eq_error hopen
    exact .refl b.tokens
  | ok j =>
    obtain ⟨-, -, rfl⟩ := watch_eq_ok hopen
    rw [tokens_opened]
    exact (Passes.prune b).grows.tokens

end Broker

instance : HeedfulSource Broker where
  grows_openWatch := Broker.grows_watch
  grows_takeEvents b j := (Broker.Passes.takeEvents b j).grows.tokens
  grows_release b j := (Broker.Passes.dropStream b j).grows.tokens
  refuses _ taskId _ h := ⟨.cancelled, congrArg Prod.fst (Broker.watch_cancelled h taskId)⟩

theorem Client.openWatch_cancelled (client : Client) (taskId : String) (capacity : Nat)
    {token : Token} {tokens : Tokens} (h : tokens.isCancelled token = true) (net : Network) :
    ∃ e, client.openWatch taskId capacity token tokens net = (.error e, net) := by
  unfold openWatch
  split
  · exact ⟨_, rfl⟩
  · exact ⟨_, if_pos h⟩

namespace DaemonSource

/-- Opening a watch leaves the tokens alone. -/
theorem tokens_openWatch (s : DaemonSource) (taskId : String) (token : Token) :
    (s.openWatch taskId token).2.tokens = s.tokens := by
  unfold openWatch
  split
  · rfl
  · split <;> rfl

theorem grows_takeEvents (s : DaemonSource) (j : Nat) :
    s.tokens.Grows (s.takeEvents j).2.2.tokens := by
  unfold takeEvents
  split
  · exact .refl s.tokens
  · exact Feed.grows_takeAll _ s.tokens

theorem grows_release (s : DaemonSource) (j : Nat) : s.tokens.Grows (s.release j).tokens := by
  unfold release
  split
  · exact .refl s.tokens
  · exact .cancel s.tokens _

theorem openWatch_cancelled (s : DaemonSource) (taskId : String) {token : Token}
    (h : s.tokens.isCancelled token = true) : ∃ e, (s.openWatch taskId token).1 = .error e := by
  unfold openWatch
  split
  · exact ⟨_, rfl⟩
  · next client _ =>
    obtain ⟨e, he⟩ := (client.withOptions s.options).openWatch_cancelled taskId s.capacity h s.network
    rw [he]
    exact ⟨e, rfl⟩

end DaemonSource

instance : HeedfulSource DaemonSource where
  grows_openWatch s taskId token := by
    show s.tokens.Grows (s.openWatch taskId token).2.tokens
    rw [DaemonSource.tokens_openWatch]
    exact .refl s.tokens
  grows_takeEvents := DaemonSource.grows_takeEvents
  grows_release := DaemonSource.grows_release
  refuses s taskId _ h := s.openWatch_cancelled taskId h

/-! ## Cancelled watchers -/

namespace Tracker

variable {σ : Type} [WatchSource σ] [HeedfulSource σ]

/-- A watcher that was cancelled finishes when it is polled. It folds what has come on its stream, and
if it has no stream it opens none. -/
theorem poll_cancelled {t : Tracker σ} {w : Nat} {v : Watcher} {s : CallState}
    (hw : t.watchers[w]? = some v) (hstage : v.stage ≠ .finished)
    (hs : t.cells[v.cell]? = some s) (hc : t.tokens.isCancelled v.token = true) :
    (t.poll w).watchers = t.watchers.set w { v with stage := .finished } := by
  cases hstage' : v.stage with
  | finished => exact absurd hstage' hstage
  | starting =>
    obtain ⟨e, he⟩ := HeedfulSource.refuses t.source v.taskId v.token hc
    exact (poll_failing hw hstage' hs (Prod.ext he rfl)).2.1
  | following j =>
    have hlast := (HeedfulSource.grows_takeEvents t.source j).cancelled hc
    exact (poll_finishing hw hstage' hs rfl (.inr (.inr hlast))).2.1

end Tracker

end TaskWatch
