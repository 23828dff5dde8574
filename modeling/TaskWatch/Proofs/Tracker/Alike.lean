import TaskWatch.Proofs.Call.Told
import TaskWatch.Proofs.Tracker.Feeding
import TaskWatch.Proofs.Tracker.Listening

/-!
# Watching here and through a daemon

A call does not show where its events come from. A watcher of a task in the same process that is fed
some events, and one of a daemon that acknowledges the watch, sends them as lines among others and
closes, finish and leave the call in one and the same state (`Tracker.watches_alike`): the events are
folded into it up to the first terminal one, and it is done if there was one. Only the token of the
watch is another, and no event depends on it (`CallState.fold_tokenless`).
-/

namespace TaskWatch

namespace CallState

/-! ## The token does not matter -/

theorem offer_tokenless (s : CallState) (o : Offer) : s.tokenless.offer o = (s.offer o).tokenless := by
  have hsame (label : String) : s.tokenless.accepts label o.tier = s.accepts label o.tier := rfl
  unfold offer updateLabel
  cases Text.nonBlank? o.candidate with
  | none => rfl
  | some label =>
    dsimp only
    rw [hsame]
    split <;> rfl

theorem edit_tokenless (s : CallState) (e : LineEdit) : s.tokenless.edit e = (s.edit e).tokenless := by
  have hsame : s.tokenless.lines = s.lines := rfl
  have hlines : (s.tokenless.edit e).lines = (s.edit e).lines := lines_edit_congr hsame rfl e
  rw [edit_eq, hlines, edit_eq s]
  rfl

/-- What an event does to a call does not depend on the token of the watch. -/
theorem applyEvent_tokenless (s : CallState) (catalog : Catalog) (event : Event) :
    (s.tokenless.applyEvent catalog event).2 = (s.applyEvent catalog event).2.tokenless := by
  rw [applyEvent_eq, applyEvent_eq, List.foldl_hom tokenless offer_tokenless,
    List.foldl_hom tokenless edit_tokenless]

theorem fold_tokenless (s : CallState) (catalog : Catalog) (events : List Event) :
    s.tokenless.fold catalog events = (s.fold catalog events).tokenless :=
  List.foldl_hom tokenless fun s event => applyEvent_tokenless s catalog event

/-- Calls that are alike but for the token are the same once they have received the same events. -/
theorem received_congr {s s' : CallState} (h : s.tokenless = s'.tokenless) (catalog : Catalog)
    (events : List Event) :
    (s.received catalog events).unwatched = (s'.received catalog events).unwatched := by
  have hreceived (s : CallState) : (s.received catalog events).unwatched =
      (s.tokenless.received catalog events).unwatched := by
    rw [received, received, fold_tokenless]
    split <;> rfl
  rw [hreceived s, h, ← hreceived s']

/-! ## The state that is left -/

/-- What a call, which was in a state before, has come to when its watch is over: some events were
folded up to the first terminal one. -/
structure Follows (final s : CallState) (catalog : Catalog) (events : List Event) : Prop where
  label : final.label = (s.fold catalog (throughTerminal events)).label
  tier : final.tier = (s.fold catalog (throughTerminal events)).tier
  lines : final.lines = (s.fold catalog (throughTerminal events)).lines
  done : final.done = events.any Event.isTerminal
  watching : final.watching = false

/-- A call that has received events, and is not watched any more. -/
theorem follows_received {s : CallState} (hdone : s.done = false) (catalog : Catalog)
    (events : List Event) : (s.received catalog events).unwatched.Follows s catalog events := by
  have hfold := (Learns.fold s catalog (throughTerminal events)).done
  unfold received
  cases hlast : events.any Event.isTerminal with
  | true => exact ⟨rfl, rfl, rfl, hlast.symm, rfl⟩
  | false => exact ⟨rfl, rfl, rfl, (hfold.trans hdone).trans hlast.symm, rfl⟩

end CallState

namespace Tracker

/-- A watcher of each of two trackers has finished, and has left its call, which was in a state
before, in one and the same state: that in which some events leave it. -/
structure Alike {σ τ : Type} (t : Tracker σ) (u : Tracker τ) (w w' : Nat) (v v' : Watcher)
    (s : CallState) (catalog : Catalog) (events : List Event) : Prop where
  watchers : t.watchers[w]? = some { v with stage := .finished } ∧
    u.watchers[w']? = some { v' with stage := .finished }
  cells : ∃ final, t.cells[v.cell]? = some final ∧ u.cells[v'.cell]? = some final ∧
    final.Follows s catalog events

/-- Two trackers over different sources that have received the same events are alike. -/
theorem alike_of_received {σ τ : Type} {t : Tracker σ} {u : Tracker τ} {w w' : Nat} {v v' : Watcher}
    {s s' : CallState} {catalog : Catalog} {events : List Event}
    (ht : t.Received w v s catalog events) (hu : u.Received w' v' s' catalog events)
    (hsame : s.tokenless = s'.tokenless) (hdone : s.done = false) :
    Alike t u w w' v v' s catalog events := by
  have hcell := hu.cell
  rw [← CallState.received_congr hsame] at hcell
  exact ⟨⟨ht.watcher, hu.watcher⟩, _, ht.cell, hcell, CallState.follows_received hdone catalog events⟩

/-- A tracker of tasks in the same process and one of tasks of a daemon have been used in any way,
and a render starts a watcher of each for calls that are alike. Then it makes no difference whether
the events are published and the task is closed, or the daemon acknowledges the watch, sends the
events as lines and closes, whatever happens to other calls and tasks in between. -/
theorem watches_alike {config : TrackerConfig} {catalog : Catalog} {registry : Registry}
    {options : ClientOptions} {net : Network} {runtime : Bool} {capacity w w' : Nat}
    {history : List LocalTracker.Turn} {history' before after : List TrackerStep}
    {here fed : LocalTracker} {there : Tracker DaemonSource} {call : ToolCall} {result : ToolResult}
    {v v' : Watcher} {events : List Event} {client : Client} {ack : List UInt8}
    {sent : List (List UInt8)}
    (hhere : (LocalTracker.new config catalog runtime capacity).turns history = here)
    (hthere : (forDaemon registry catalog config options net).run history' = there)
    (hw : here.tracker.watchers.length = w) (hw' : there.watchers.length = w')
    (hstart : (here.tracker.render call result).2.watchers = here.tracker.watchers ++ [v])
    (hstart' : (there.render call result).2.watchers = there.watchers ++ [v'])
    (hsame : (here.tracker.render call result).2.cells[v.cell]?.map CallState.tokenless =
      (there.render call result).2.cells[v'.cell]?.map CallState.tokenless)
    (hfed : LocalTracker.Fed w v (here.turn (.step (.tracker (.render call result)))) .closed events
      fed)
    (hpast : ∀ {p j}, fed.tracker.watchers[w]? = some { v with stage := .following j } →
      ¬fed.Awaits p j)
    (hroom : events.length ≤ capacity)
    (hheard : (there.render call result).2.Heard w' v' before after client ack sent events)
    (hroom' : events.length ≤ config.eventCapacity) :
    ∃ s, (here.tracker.render call result).2.cells[v.cell]? = some s ∧ s.taskId = some v.taskId ∧
      Alike (fed.turn (.poll w)).tracker
        (there.run (.render call result :: before ++ .poll w' :: after)) w w' v v' s catalog events := by
  subst hw hw'
  -- the call that is fed here
  have inOrder : here.InOrder := hhere ▸ (LocalTracker.InOrder.new ..).turns history
  have hcatalog : here.tracker.catalog = catalog := hhere ▸ LocalTracker.catalog_turns _ history
  have hcapacity : (here.turn (.step (.tracker (.render call result)))).tracker.source.capacity =
      max capacity 1 :=
    (LocalTracker.InOrder.capacity_turn here _).trans
      (hhere ▸ LocalTracker.InOrder.capacity_turns _ history)
  have hroomy := Nat.le_trans hroom (Nat.le_max_left capacity 1)
  obtain ⟨s, starts⟩ := inOrder.proper.render_starts hstart
  have received := hfed.received (inOrder.turn _) starts (hcapacity.symm ▸ hroomy) hpast
  rw [LocalTracker.catalog_turn, hcatalog] at received
  -- the call that listens to the daemon
  have proper : there.Proper := hthere ▸ (Proper.new config catalog true rfl fun _ => rfl).run history'
  have hcatalog' : (there.render call result).2.catalog = catalog :=
    (there.catalog_step (.render call result)).trans (hthere ▸ catalog_run _ history')
  have same : (forDaemon registry catalog config options net).source.SameDaemon there.source :=
    hthere ▸ sameDaemon_run _ history'
  have hcapacity' : (there.render call result).2.source.capacity = config.eventCapacity :=
    (there.sameDaemon_step (.render call result)).capacity.trans same.capacity
  obtain ⟨s', starts'⟩ := proper.render_starts hstart'
  have received' := hheard.received (proper.step (.render call result)) starts'
    (hcapacity'.symm ▸ hroom')
  rw [hcatalog'] at received'
  rw [starts.cell, starts'.cell] at hsame
  exact ⟨s, starts.cell, starts.task,
    alike_of_received received received' (Option.some.inj hsame) starts.done⟩

/-! ### A watch of three events -/

/-- Some progress of a task, its end, and one more event. -/
def news : List Event :=
  [{ kind := .progress, progress := some { timestamp := .zero, text := "half" } },
    { kind := .completed }, { kind := .progress }]

/-- A result that tells the task of its call. -/
def telling (taskId : String) : ToolResult :=
  { metadata := "\x7b\"task_id\":\"" ++ taskId ++ "\"\x7d" }

/-- A tracker that follows another task already. -/
def here : LocalTracker := (LocalTracker.new {} {} true 3).turns
  [.step (.tracker (.render { id := "b" } (telling "u"))), .poll 0, .step (.publish "u" news[0])]

/-- The news are published for the task, others go on in between, and the task is closed. -/
def feeding : List LocalTracker.Turn :=
  [.poll 1, .step (.publish "t" news[0]), .poll 0, .step (.publish "u" news[1]), .poll 1,
    .step (.publish "t" news[1]), .step (.publish "t" news[2]), .step (.close "t")]

/-- The watcher that is fed the news. -/
def reader : Watcher := ⟨1, "t", 1, .starting⟩

theorem feeding_feeds {start : LocalTracker}
    (h : start.tracker.source.rejections.find? (·.1 == "t") = none) :
    LocalTracker.Fed 1 reader start .closed news (start.turns feeding) := by
  have opened : LocalTracker.Fed 1 reader start .opened [] (start.turn (.poll 1)) := .opening .start h
  have first := opened.publish news[0]
  have other := first.other (r := .poll 0) nofun (fun _ => rfl) (LocalTracker.sparesCell_poll _ 0 1)
  have other' := other.other (r := .step (.publish "u" news[1])) nofun (fun _ => by decide) nofun
  exact (((other'.poll nofun).publish news[1]).publish news[2]).close

/-- The acknowledgement of a daemon. -/
def assent : List UInt8 := Utf8.encode "\x7b\"success\":true\x7d"

/-- The news as lines, after a line that cannot be read and a blank one. -/
def broadcast : List (List UInt8) :=
  Utf8.encode "\x7b" :: [] :: news.map fun e => Utf8.encode e.text

/-- What a daemon does that reads the request, sends the acknowledgement and the news and closes. -/
def airing : Script :=
  .read :: (assent :: broadcast).map fun piece => .write (piece ++ [Line.newline])

/-- A daemon that turns the first watch away, and sends the news on the next one. -/
def station : Network :=
  ⟨[{ endpoint := .unix "daemon.sock", scripts := [[.read], airing] }]⟩

/-- The registry with the daemon. -/
def listing : Registry := ⟨[{ name := localDaemon, address := "daemon.sock" }]⟩

/-- A tracker that has yet to follow another task of the daemon, and a call that does not tell its
task at first. -/
def there : Tracker DaemonSource := (forDaemon listing {} {} {} station).run
  [.render { id := "a" } {}, .render { id := "b" } (telling "u")]

/-- The watcher that hears the news. -/
def listener : Watcher := ⟨0, "t", 1, .starting⟩

theorem listener_hears :
    (there.render { id := "a" } (telling "t")).2.Heard 1 listener [.poll 0] [.poll 0]
      Client.neighbour assent broadcast news := by
  have hoptions : (there.render { id := "a" } (telling "t")).2.source.options = {} := by
    decide +kernel
  -- the other watch was turned away, so this is the second connection
  have hjoined : ((((there.render { id := "a" } (telling "t")).2.run [.poll 0]).source.network.connect
      (.unix "daemon.sock") ({} : ClientOptions).maxStreamLineBytes).map
        fun joined => (joined.1, joined.2.1)) =
      some (⟨0, 1⟩, .start airing ({} : ClientOptions).maxStreamLineBytes) := by
    decide +kernel
  have hsends : (Client.neighbour.withOptions {}).Sends listener.taskId
      ((there.render { id := "a" } (telling "t")).2.run [.poll 0]).source.network
      (Line.written (assent :: broadcast)) := by
    generalize ((there.render { id := "a" } (telling "t")).2.run [.poll 0]).source.network = net
      at hjoined ⊢
    obtain ⟨⟨link, c, joined⟩, hconnect, hc⟩ := Option.map_eq_some_iff.1 hjoined
    obtain ⟨rfl, rfl⟩ := Prod.mk.inj hc
    exact Client.sends_of_writes hconnect rfl rfl rfl rfl listener.taskId
  have hresponse : Wire.Response.ofText? "\x7b\"success\":true\x7d" = some { success := true } := by
    decide +kernel
  have hassent : Client.acknowledged "\x7b\"success\":true\x7d" = .ok () := by
    rw [Client.acknowledged, hresponse]
    rfl
  have hack : Client.Acknowledges ({} : ClientOptions).maxStreamLineBytes assent :=
    ⟨by decide +kernel, _, _, rfl, by decide +kernel, hassent⟩
  have hcarries : Carries ({} : ClientOptions).maxStreamLineBytes broadcast news :=
    .noise (by decide +kernel) (by decide +kernel) (.noise (by decide +kernel) (by decide +kernel)
      (.of_texts (by decide +kernel)))
  rw [← hoptions] at hsends hack hcarries
  exact ⟨by decide, ⟨nofun, nofun, nofun, trivial⟩, by decide +kernel, hsends, hack, hcarries⟩

/-- The news leave the call alike, whether they are published or broadcast. -/
theorem watches_alike_news :
    ∃ s, (here.tracker.render { id := "a" } (telling "t")).2.cells[reader.cell]? = some s ∧
      s.taskId = some reader.taskId ∧
      Alike
        (((here.turn (.step (.tracker (.render { id := "a" } (telling "t"))))).turns feeding).turn
          (.poll 1)).tracker
        (there.run (.render { id := "a" } (telling "t") :: [.poll 0] ++ .poll 1 :: [.poll 0]))
        1 1 reader listener s {} news := by
  have hw : here.tracker.watchers.length = 1 := by decide +kernel
  have hw' : there.watchers.length = 1 := by decide +kernel
  have hstart : (here.tracker.render { id := "a" } (telling "t")).2.watchers =
      here.tracker.watchers ++ [reader] := by decide +kernel
  have hstart' : (there.render { id := "a" } (telling "t")).2.watchers =
      there.watchers ++ [listener] := by decide +kernel
  have hsame : (here.tracker.render { id := "a" } (telling "t")).2.cells[reader.cell]?.map
      CallState.tokenless =
        (there.render { id := "a" } (telling "t")).2.cells[listener.cell]?.map
          CallState.tokenless := by decide +kernel
  have hadmitted : (here.turn (.step (.tracker
      (.render { id := "a" } (telling "t"))))).tracker.source.rejections.find? (·.1 == "t") = none := by
    decide +kernel
  have hover : ∀ state ∈ ((here.turn (.step (.tracker
      (.render { id := "a" } (telling "t"))))).turns feeding).publications,
      state.isRight = true := by decide +kernel
  refine watches_alike rfl rfl hw hw' hstart hstart' hsame (feeding_feeds hadmitted)
    (fun _ ⟨q, hq, _⟩ => ?_) (by decide) listener_hears (by decide)
  exact absurd (hover _ (List.mem_of_getElem? hq)) Bool.false_ne_true

end Tracker

end TaskWatch
