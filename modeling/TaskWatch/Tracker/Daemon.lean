import TaskWatch.Client.Watch
import TaskWatch.Tracker.Render
import TaskWatch.Tracker.Watching

/-!
# Tracking tasks of a daemon

A `DaemonSource` opens the watches of a tracker on one daemon of a registry. The daemon is looked up
for each watch, so a daemon that is missing or disabled fails the watch and nothing else.
-/

namespace TaskWatch

/-- Watches on one daemon of a registry. -/
structure DaemonSource where
  registry : Registry
  daemon : String
  options : ClientOptions := {}
  /-- How many events may be queued on a stream. -/
  capacity : Nat := Channel.standardCapacity
  network : Network
  tokens : Tokens := {}
  /-- Every stream opened so far. -/
  feeds : List Feed := []

namespace DaemonSource

/-- Opens a watch on the daemon. -/
def openWatch (s : DaemonSource) (taskId : String) (token : Token) :
    Except ClientError Nat × DaemonSource :=
  match Client.ofRegistry s.registry s.daemon with
  | .error e => (.error e, s)
  | .ok client =>
    match (client.withOptions s.options).openWatch taskId s.capacity token s.tokens s.network with
    | (.error e, net) => (.error e, { s with network := net })
    | (.ok feed, net) =>
      (.ok s.feeds.length, { s with network := net, feeds := s.feeds ++ [feed] })

/-- Takes all events that have come on a stream, and says whether more may come. -/
def takeEvents (s : DaemonSource) (i : Nat) : List Event × Bool × DaemonSource :=
  match s.feeds[i]? with
  | none => ([], false, s)
  | some feed =>
    let (events, feed, tokens) := feed.takeAll s.tokens
    (events, feed.channel.hasSink, { s with feeds := s.feeds.set i feed, tokens := tokens })

/-- Lets go of a stream, which cancels its token. -/
def release (s : DaemonSource) (i : Nat) : DaemonSource :=
  match s.feeds[i]? with
  | none => s
  | some feed =>
    let dropped := { feed with channel := feed.channel.dropStream }
    { s with feeds := s.feeds.set i dropped, tokens := s.tokens.cancel feed.channel.token }

end DaemonSource

instance : WatchSource DaemonSource where
  tokens := DaemonSource.tokens
  withTokens s tokens := { s with tokens := tokens }
  openWatch := DaemonSource.openWatch
  takeEvents := DaemonSource.takeEvents
  release := DaemonSource.release

/-- A tracker of tasks on the daemon that a configuration names. -/
def Tracker.forDaemon (registry : Registry) (catalog : Catalog) (config : TrackerConfig)
    (options : ClientOptions) (network : Network) : Tracker DaemonSource :=
  { config := config
    catalog := catalog
    source := {
      registry := registry
      daemon := config.daemon
      options := options
      capacity := config.eventCapacity
      network := network } }

end TaskWatch
