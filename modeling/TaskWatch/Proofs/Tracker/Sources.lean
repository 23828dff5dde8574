import TaskWatch.Tracker.Daemon

/-!
# Sources that keep their tokens

The tokens of all watches belong to the source, and what a tracker does to them itself is to replace
them. A source is lawful if it gives back the tokens that it was given (`LawfulSource`), as brokers
and daemons do.
-/

namespace TaskWatch

/-- A source that keeps the tokens it is given. -/
class LawfulSource (σ : Type) [WatchSource σ] : Prop where
  tokens_withTokens (source : σ) (tokens : Tokens) :
    WatchSource.tokens (WatchSource.withTokens source tokens) = tokens
  withTokens_withTokens (source : σ) (tokens tokens' : Tokens) :
    WatchSource.withTokens (WatchSource.withTokens source tokens) tokens' =
      WatchSource.withTokens source tokens'

instance : LawfulSource Broker where
  tokens_withTokens _ _ := rfl
  withTokens_withTokens _ _ _ := rfl

instance : LawfulSource DaemonSource where
  tokens_withTokens _ _ := rfl
  withTokens_withTokens _ _ _ := rfl

end TaskWatch
