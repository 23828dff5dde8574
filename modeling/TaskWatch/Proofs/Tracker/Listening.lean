import TaskWatch.Proofs.Client.Room
import TaskWatch.Proofs.Client.Sent
import TaskWatch.Proofs.Tracker.Spared

/-!
# Listening to a daemon

A watcher hears some events of a daemon when the daemon acknowledges its watch, sends the events as
lines among others and closes (`Tracker.Heard`). Whatever other watchers do before and after that,
the watcher finishes, and its call has received the events (`Heard.received`): the producer of the
stream has room for all of them (`DaemonSource.openWatch_sends`), and hands them out at once
(`DaemonSource.takeEvents_roomy`).
-/

namespace TaskWatch

theorem length_throughTerminal_le (events : List Event) :
    (throughTerminal events).length ≤ events.length := by
  induction events with
  | nil => exact Nat.le_refl _
  | cons e rest ih =>
    rw [throughTerminal]
    split
    · exact Nat.succ_le_succ (Nat.zero_le _)
    · exact Nat.succ_le_succ ih

namespace DaemonSource

variable {source : DaemonSource} {taskId : String} {token : Token} {client : Client}
  {ack : List UInt8} {sent : List (List UInt8)} {events : List Event} {feed : Feed}

/-- A source goes on with the same daemon, the same options and the same room. -/
structure SameDaemon (source source' : DaemonSource) : Prop where
  registry : source'.registry = source.registry
  daemon : source'.daemon = source.daemon
  options : source'.options = source.options
  capacity : source'.capacity = source.capacity

namespace SameDaemon

variable {source' source'' : DaemonSource}

theorem refl (source : DaemonSource) : source.SameDaemon source := ⟨rfl, rfl, rfl, rfl⟩

theorem trans (h : source.SameDaemon source') (h' : source'.SameDaemon source'') :
    source.SameDaemon source'' :=
  ⟨h'.registry.trans h.registry, h'.daemon.trans h.daemon, h'.options.trans h.options,
    h'.capacity.trans h.capacity⟩

theorem openWatch (source : DaemonSource) (taskId : String) (token : Token) :
    source.SameDaemon (source.openWatch taskId token).2 := by
  unfold DaemonSource.openWatch
  split
  · exact refl source
  · split <;> exact ⟨rfl, rfl, rfl, rfl⟩

theorem takeEvents (source : DaemonSource) (stream : Nat) :
    source.SameDaemon (source.takeEvents stream).2.2 := by
  unfold DaemonSource.takeEvents
  split <;> exact ⟨rfl, rfl, rfl, rfl⟩

theorem release (source : DaemonSource) (stream : Nat) :
    source.SameDaemon (source.release stream) := by
  unfold DaemonSource.release
  split <;> exact ⟨rfl, rfl, rfl, rfl⟩

end SameDaemon

/-- A daemon that acknowledges the watch, sends some events and closes is watched by a producer that
has room for all of them. -/
theorem openWatch_sends (hid : Text.nonBlank? taskId = some taskId)
    (htoken : source.tokens.isCancelled token = false)
    (hclient : Client.ofRegistry source.registry source.daemon = .ok client)
    (hsends : (client.withOptions source.options).Sends taskId source.network
      (Line.written (ack :: sent)))
    (hack : Client.Acknowledges source.options.maxStreamLineBytes ack)
    (hcarries : Carries source.options.maxStreamLineBytes sent events)
    (hroom : events.length ≤ source.capacity) :
    ∃ network feed, source.openWatch taskId token = (.ok source.feeds.length,
        { source with network := network, feeds := source.feeds ++ [feed] }) ∧
      feed.Roomy source.tokens ∧ feed.channel.queue = [] ∧
      Feed.eventsOf feed.lines = throughTerminal events := by
  have hopened := Client.openWatch_eq _ hid htoken hsends source.capacity
  rw [Client.watchAnswer_written _ hack hcarries.newline_not_mem] at hopened
  have hevents : Feed.eventsOf (sent.map (Line.ofPiece source.options.maxStreamLineBytes)) =
      throughTerminal events := hcarries.eventsOf
  have hlength := length_throughTerminal_le events
  refine ⟨((client.withOptions source.options).openWatch taskId source.capacity token source.tokens
    source.network).2, {
      channel := .new taskId source.capacity token
      lines := sent.map (Line.ofPiece source.options.maxStreamLineBytes)
      ended := true }, ?_, ⟨rfl, rfl, htoken, rfl, rfl, ?_⟩, rfl, hevents⟩
  · rw [openWatch, hclient]
    dsimp only
    generalize (client.withOptions source.options).openWatch taskId source.capacity token
      source.tokens source.network = opened at hopened ⊢
    obtain ⟨result, network⟩ := opened
    obtain rfl := hopened
    rfl
  · dsimp only
    rw [hevents]
    show 0 + (throughTerminal events).length ≤ max source.capacity 1
    omega

/-- All events of a producer that has room for them are taken at once, and no more come. -/
theorem takeEvents_roomy {i : Nat} (hfeed : source.feeds[i]? = some feed)
    (hroomy : feed.Roomy source.tokens) (hqueue : feed.channel.queue = []) :
    ∃ source', source.takeEvents i = (Feed.eventsOf feed.lines, false, source') := by
  obtain ⟨stopped, htaken, hstopped⟩ := hroomy.takeAll hqueue
  rw [takeEvents, hfeed]
  dsimp only
  rw [htaken, hstopped]
  exact ⟨_, rfl⟩

end DaemonSource

namespace Tracker

theorem sameDaemon_step (t : Tracker DaemonSource) (s : TrackerStep) :
    t.source.SameDaemon (t.step s).source := by
  refine step_keeps (P := fun t' : Tracker DaemonSource => t.source.SameDaemon t'.source)
    (fun hc h => ?_) (fun h _ _ hsource => hsource ▸ h) (.refl t.source) s
  exact hc.source_keeps (P := t.source.SameDaemon)
    (fun _ h => ⟨h.registry, h.daemon, h.options, h.capacity⟩)
    (fun taskId token h => h.trans (.openWatch _ taskId token))
    (fun stream h => h.trans (.takeEvents _ stream)) (fun stream h => h.trans (.release _ stream)) h

theorem sameDaemon_run (t : Tracker DaemonSource) (steps : List TrackerStep) :
    t.source.SameDaemon (t.run steps).source := by
  induction steps generalizing t with
  | nil => exact .refl t.source
  | cons s steps ih => exact (t.sameDaemon_step s).trans (ih (t.step s))

/-- A watcher whose daemon acknowledges the watch, sends some events and closes finishes, and its
call has received them. -/
theorem Starts.received {t : Tracker DaemonSource} {w : Nat} {v : Watcher} {s : CallState}
    {client : Client} {ack : List UInt8} {sent : List (List UInt8)} {events : List Event}
    (starts : t.Starts w v s)
    (hclient : Client.ofRegistry t.source.registry t.source.daemon = .ok client)
    (hsends : (client.withOptions t.source.options).Sends v.taskId t.source.network
      (Line.written (ack :: sent)))
    (hack : Client.Acknowledges t.source.options.maxStreamLineBytes ack)
    (hcarries : Carries t.source.options.maxStreamLineBytes sent events)
    (hroom : events.length ≤ t.source.capacity) :
    (t.poll w).Received w v s t.catalog events := by
  obtain ⟨network, feed, hopen, hroomy, hqueue, hevents⟩ :=
    DaemonSource.openWatch_sends starts.id starts.uncancelled hclient hsends hack hcarries hroom
  obtain ⟨u, hpoll, hsource, hcatalog, hcells, hwatcher⟩ :=
    poll_starting starts.watcher starts.stage hopen
  have hcell : u.cells[v.cell]? = some (s.fold u.catalog []) := by
    rw [hcells]
    exact starts.cell
  have hfeed : u.source.feeds[t.source.feeds.length]? = some feed := by
    rw [hsource]
    exact List.getElem?_concat_length
  have hroomy' : feed.Roomy u.source.tokens := by
    rw [hsource]
    exact hroomy
  obtain ⟨source, htake⟩ := DaemonSource.takeEvents_roomy hfeed hroomy' hqueue
  have hpolled := poll_received hwatcher rfl hcell rfl htake (.inr (.inl rfl))
  rw [hpoll]
  refine ⟨hpolled.watcher, hpolled.cell.trans ?_⟩
  rw [List.nil_append, hevents, CallState.received_throughTerminal, hcatalog]

/-! ## With others in between -/

variable {start : Tracker DaemonSource} {w : Nat} {v : Watcher} {s : CallState}
  {before after : List TrackerStep} {client : Client} {ack : List UInt8} {sent : List (List UInt8)}
  {events : List Event}

/-- A watcher hears some events: when it is polled for the first time, its daemon acknowledges the
watch, sends the events as lines among others, and closes. Anything else may happen before and after,
as long as the caller does not change the call. -/
structure Heard (start : Tracker DaemonSource) (w : Nat) (v : Watcher)
    (before after : List TrackerStep) (client : Client) (ack : List UInt8)
    (sent : List (List UInt8)) (events : List Event) : Prop where
  first : ∀ r ∈ before, r.actor ≠ some w
  spares : start.SparesCellAll v.cell (before ++ .poll w :: after)
  found : Client.ofRegistry start.source.registry start.source.daemon = .ok client
  sends : (client.withOptions start.source.options).Sends v.taskId (start.run before).source.network
    (Line.written (ack :: sent))
  acknowledges : Client.Acknowledges start.source.options.maxStreamLineBytes ack
  carries : Carries start.source.options.maxStreamLineBytes sent events

/-- A watcher that has heard some events has finished, and its call has received them. -/
theorem Heard.received (h : start.Heard w v before after client ack sent events)
    (proper : start.Proper) (starts : start.Starts w v s)
    (hroom : events.length ≤ start.source.capacity) :
    (start.run (before ++ .poll w :: after)).Received w v s start.catalog events := by
  obtain ⟨hbefore, -, hafter⟩ := (start.sparesCellAll_append v.cell before _).1 h.spares
  have starts' := starts.run proper h.first hbefore
  have same := start.sameDaemon_run before
  have hclient : Client.ofRegistry (start.run before).source.registry
      (start.run before).source.daemon = .ok client := by
    rw [same.registry, same.daemon]
    exact h.found
  have hsends := h.sends
  have hack := h.acknowledges
  have hcarries := h.carries
  rw [← same.options] at hsends hack hcarries
  rw [← same.capacity] at hroom
  have received := starts'.received hclient hsends hack hcarries hroom
  rw [start.catalog_run before] at received
  rw [run_append]
  exact received.run ((proper.run before).step (.poll w)) hafter

end Tracker

end TaskWatch
