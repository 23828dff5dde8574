import TaskWatch.Broker.Basic

/-!
# Where watches come from

A tracker follows tasks through a source of watches: it opens a stream for a task under a token,
takes the events that have come, and lets the stream go. The tokens of all watches belong to the
source, because a source cancels the token of a stream that it closes. The broker of the same
process is one such source.
-/

namespace TaskWatch

/-- A source of watches with states `σ`. -/
class WatchSource (σ : Type) where
  /-- The tokens handed out so far. -/
  tokens : σ → Tokens
  withTokens : σ → Tokens → σ
  /-- Opens a stream for a task under a token, and gives its number. -/
  openWatch : σ → String → Token → Except ClientError Nat × σ
  /-- Takes all events that have come on a stream, and says whether more may come. -/
  takeEvents : σ → Nat → List Event × Bool × σ
  /-- Lets go of a stream, which cancels its token. -/
  release : σ → Nat → σ

instance : WatchSource Broker where
  tokens := Broker.tokens
  withTokens b tokens := { b with tokens := tokens }
  openWatch := Broker.watch
  takeEvents := Broker.takeEvents
  release := Broker.dropStream

end TaskWatch
