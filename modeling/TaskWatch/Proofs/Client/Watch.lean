import TaskWatch.Proofs.Client.Feed
import TaskWatch.Proofs.Line.Reader
import TaskWatch.Proofs.Text.NonBlank

/-!
# Watches of a daemon that closes

What comes of a watch depends on the octets alone that the daemon sends before it closes
(`Client.openWatch_exact`). The first line decides whether there is a watch. The consumer gets the
events of the lines after it, up to and including the first terminal one; lines without an event are
passed over, and what follows the terminal one has no effect.

* `Client.Sends`: what a daemon sends on the connection of a watch;
* `Client.openWatch_eq`: what comes of the request;
* `FeedSession.serves_new`: what comes of the watch.
-/

namespace TaskWatch

/-! ## Limits of lines -/

namespace Conversation

theorem limit_follow (c : Conversation) (script : Script) :
    (c.follow script).reader.limit = c.reader.limit := by
  induction script generalizing c with
  | nil => rfl
  | cons step rest ih =>
    cases step with
    | write octets => exact ih _
    | hold => rfl
    | read =>
      rw [follow]
      split
      · exact ih _
      · rfl

theorem limit_send (c : Conversation) (text : String) :
    (c.send text).reader.limit = c.reader.limit := limit_follow _ _

theorem limit_readLine (c : Conversation) : c.readLine.2.reader.limit = c.reader.limit := by
  show c.reader.next.2.limit = c.reader.limit
  rw [LineReader.next]
  split
  · rfl
  · split
    · split <;> rfl
    · rfl

theorem limit_awaitLine (limit : Duration) (c : Conversation) :
    (awaitLine limit c).2.reader.limit = c.reader.limit := by
  have hread := limit_readLine c
  rw [awaitLine]
  split <;> next hnext => rw [hnext] at hread; exact hread

theorem limit_authenticate (token : String) (limit : Duration) (c : Conversation) :
    (authenticate token limit c).2.reader.limit = c.reader.limit := by
  have hawait := (limit_awaitLine limit (c.send (authLine token))).trans (limit_send c _)
  rw [authenticate]
  split
  · next hreply =>
    rw [hreply] at hawait
    split <;> exact hawait
  · next hreply => rw [hreply] at hawait; exact hawait
  · next hreply => rw [hreply] at hawait; exact hawait

end Conversation

theorem Network.limit_connect {net joined : Network} {endpoint : Endpoint} {limit : Nat}
    {link : Link} {c : Conversation} (h : net.connect endpoint limit = some (link, c, joined)) :
    c.reader.limit = limit := by
  unfold connect at h
  simp only [Option.bind_eq_bind, Option.bind_eq_some_iff, Option.pure_def, Option.some.injEq,
    Prod.mk.injEq] at h
  obtain ⟨i, -, host, -, -, rfl, -⟩ := h
  exact Conversation.limit_follow _ _

theorem Client.limit_greet (client : Client) (c : Conversation) :
    (client.greet c).2.reader.limit = c.reader.limit := by
  rw [greet]
  split
  · exact Conversation.limit_authenticate _ _ c
  · rfl

/-! ## The first line -/

namespace Client

/-- The request for a watch. -/
def watchRequest (id : String) : Wire.Request := { kind := .toolWatch, taskId := id }

/-- A daemon lets the client in, and after the request it has sent these octets and closed. -/
def Sends (client : Client) (id : String) (net : Network) (octets : List UInt8) : Prop :=
  ∃ link c c' joined,
    net.connect client.endpoint client.options.maxStreamLineBytes = some (link, c, joined) ∧
    client.greet c = (.ok (), c') ∧
    (c'.send (watchRequest id).line).reader.ended = true ∧
    (c'.send (watchRequest id).line).reader.chunks.flatten = octets

/-- What comes of a watch when these lines follow the request: the lines that are left for it. -/
def watchAnswer (limit : Nat) : List Line → Except ClientError (List Line)
  | [] => .error .noResponse
  | .tooLong :: _ => .error (.lineTooLong limit)
  | .text first :: rest =>
    match Text.nonBlank? first with
    | none => .error .noResponse
    | some line => (fun _ => rest) <$> acknowledged line

/-- The lines of octets under the limit of a watch. -/
def watchLines (client : Client) (octets : List UInt8) : List Line :=
  (Line.pieces octets).map (Line.ofPiece client.options.maxStreamLineBytes)

theorem requestWatch_eq (client : Client) {id : String} {c : Conversation} {octets : List UInt8}
    (hlimit : c.reader.limit = client.options.maxStreamLineBytes)
    (hended : (c.send (watchRequest id).line).reader.ended = true)
    (hoctets : (c.send (watchRequest id).line).reader.chunks.flatten = octets) :
    (client.requestWatch id c).1 = (fun rest => (rest, true)) <$>
      watchAnswer client.options.maxStreamLineBytes (client.watchLines octets) := by
  rw [requestWatch, Conversation.ask, Conversation.awaitLine]
  have hlimit' := (Conversation.limit_send c (watchRequest id).line).trans hlimit
  generalize hc : c.send (watchRequest id).line = c' at hended hoctets hlimit'
  have hsent : c.send ({ kind := .toolWatch, taskId := id } : Wire.Request).line = c' := hc
  rw [hsent, Conversation.readLine, watchLines, ← hlimit']
  cases hpieces : Line.pieces octets with
  | nil =>
    rw [LineReader.next_eq_finished hended (hoctets ▸ hpieces)]
    rfl
  | cons piece later =>
    obtain ⟨chunks, hnext, hlater⟩ := LineReader.next_eq_line hended (hoctets ▸ hpieces)
    have hlines : LineReader.lines { c'.reader with chunks := chunks } = _ :=
      LineReader.lines_eq hended
    rw [hlater] at hlines
    rw [hnext, List.map_cons]
    cases Line.ofPiece c'.reader.limit piece with
    | tooLong => rfl
    | text first =>
      dsimp only
      rw [watchAnswer]
      cases Text.nonBlank? first with
      | none => rfl
      | some line =>
        dsimp only
        cases acknowledged line with
        | error e => rfl
        | ok _ =>
          show Except.ok (LineReader.lines { c'.reader with chunks := chunks }, c'.reader.ended) = _
          rw [hlines, hended]
          rfl

/-- What comes of a watch depends on the lines that the daemon sends. -/
theorem openWatch_eq (client : Client) {taskId id : String} {token : Token} {tokens : Tokens}
    {net : Network} {octets : List UInt8} (hid : Text.nonBlank? taskId = some id)
    (htoken : tokens.isCancelled token = false) (h : client.Sends id net octets)
    (capacity : Nat) : (client.openWatch taskId capacity token tokens net).1 =
      (fun rest => { channel := .new id capacity token, lines := rest, ended := true }) <$>
        watchAnswer client.options.maxStreamLineBytes (client.watchLines octets) := by
  obtain ⟨link, c, c', joined, hconnect, hgreet, hended, hoctets⟩ := h
  have hlimit : c'.reader.limit = client.options.maxStreamLineBytes := by
    have hkept := client.limit_greet c
    rw [hgreet] at hkept
    exact hkept.trans (Network.limit_connect hconnect)
  have hrequest := client.requestWatch_eq hlimit hended hoctets
  rw [openWatch, hid]
  dsimp only
  rw [if_neg (by rw [htoken]; decide), withConnection, hconnect]
  dsimp only
  rw [converse, hgreet]
  dsimp only
  rw [hrequest]
  cases watchAnswer client.options.maxStreamLineBytes (client.watchLines octets) <;> rfl

end Client

/-! ## A daemon that writes and closes -/

theorem Conversation.follow_writes (c : Conversation) (chunks : List (List UInt8)) :
    c.follow (chunks.map .write) = { c with
      script := []
      reader := { c.reader with chunks := c.reader.chunks ++ chunks, ended := true } } := by
  induction chunks generalizing c with
  | nil =>
    rw [List.append_nil]
    rfl
  | cons octets chunks ih =>
    rw [List.map_cons, follow, ih]
    show _ = { c with
      script := []
      reader := { c.reader with chunks := c.reader.chunks ++ ([octets] ++ chunks), ended := true } }
    rw [← List.append_assoc]
    rfl

/-- A request ends with a newline. -/
theorem Wire.Request.newline_mem_line (request : Wire.Request) :
    Line.newline ∈ Utf8.encode request.line := by
  have hend : "\n".toList.flatMap Utf8.encodeChar = [Line.newline] := by decide
  rw [Utf8.encode, line, String.toList_append, List.flatMap_append, hend]
  exact List.mem_append_right _ (List.mem_singleton_self _)

theorem Line.cut_of_mem {octets : List UInt8} (h : newline ∈ octets) :
    ∃ before after, cut octets = (before, some after) := by
  cases hcut : cut octets with
  | mk before rest =>
    cases rest with
    | none => exact absurd h (cut_eq_none_iff.1 hcut).2
    | some after => exact ⟨before, after, rfl⟩

/-- A daemon that lets the client in, reads the request, writes some chunks and closes. -/
theorem Client.sends_of_writes {client : Client} {net joined : Network} {link : Link}
    {c c' : Conversation} {chunks : List (List UInt8)}
    (hconnect : net.connect client.endpoint client.options.maxStreamLineBytes =
      some (link, c, joined))
    (hgreet : client.greet c = (.ok (), c')) (hscript : c'.script = .read :: chunks.map .write)
    (hunread : c'.unread = []) (hchunks : c'.reader.chunks.flatten = []) (id : String) :
    client.Sends id net chunks.flatten := by
  obtain ⟨before, after, hcut⟩ := Line.cut_of_mem (watchRequest id).newline_mem_line
  have hsent : (c'.send (watchRequest id).line).reader =
      { c'.reader with chunks := c'.reader.chunks ++ chunks, ended := true } := by
    rw [Conversation.send, hscript]
    dsimp only
    rw [Conversation.follow]
    dsimp only
    rw [hunread, List.nil_append, hcut]
    dsimp only
    rw [Conversation.follow_writes]
  refine ⟨link, c, c', joined, hconnect, hgreet, ?_, ?_⟩
  · rw [hsent]
  · rw [hsent, List.flatten_append, hchunks, List.nil_append]

/-! ## The watch -/

namespace FeedSession

/-- What a watch of a daemon that has closed is worth, when these lines are left for it. -/
structure Serves (s : FeedSession) (token : Token) (lines : List Line) : Prop where
  /-- A consumer that keeps up gets the events in order. -/
  begins : ∀ turns, (s.run turns).feed.channel.dropped = 0 →
    (s.run turns).received ++ (s.run turns).feed.channel.queue <+: Feed.eventsOf lines
  /-- When the consumer finds the end, it has got all of them. -/
  complete : ∀ turns, (s.run turns).feed.channel.dropped = 0 →
    (s.run turns).feed.channel.receive.1 = .closed → (s.run turns).received = Feed.eventsOf lines
  closes : ∀ turns, (s.run turns).feed.channel.receive.1 = .closed →
    (s.run turns).feed.channel.phase = .closed ∧
      (s.run turns).tokens.isCancelled token = true
  /-- The end comes when the producer has found room often enough and the consumer has taken what is
  queued. -/
  ends : ∀ turns n, lines.length < s.rooms turns →
    (s.run turns).feed.channel.queue.length ≤ n →
      ((s.run turns).run (List.replicate n .receive)).feed.channel.receive.1 = .closed
  /-- A consumer keeps up when the producer finds room in all its turns. -/
  keepsUp : ∀ turns, s.rooms turns = turns.count .produce →
    (s.run turns).feed.channel.dropped = 0
  /-- Nothing that follows the first terminal event has any effect. -/
  settled : ∀ first after after', lines = first ++ after → Feed.Closing first → ∀ turns,
    ((s.relined (first ++ after') true).run turns).received = (s.run turns).received ∧
      ((s.relined (first ++ after') true).run turns).feed.channel = (s.run turns).feed.channel ∧
      ((s.relined (first ++ after') true).run turns).tokens = (s.run turns).tokens

/-- The end is found only when the producer has stopped. -/
theorem stopped_of_closed {ch : Channel} (h : ch.receive.1 = .closed) :
    ch.hasSink = false ∧ ch.queue = [] := by
  rw [Channel.receive] at h
  cases hqueue : ch.queue with
  | cons e rest =>
    rw [hqueue] at h
    cases h
  | nil =>
    rw [hqueue] at h
    cases hsink : ch.hasSink with
    | false => exact ⟨rfl, rfl⟩
    | true =>
      rw [hsink] at h
      cases h

/-- A new watch. -/
theorem serves_new {tokens : Tokens} {token : Token} (htoken : tokens.isCancelled token = false)
    (id : String) (capacity : Nat) (lines : List Line) :
    Serves ⟨{ channel := .new id capacity token, lines := lines, ended := true }, tokens, []⟩
      token lines := by
  generalize hs : FeedSession.mk { channel := .new id capacity token, lines := lines, ended := true }
    tokens [] = s
  have hlines : s.feed.lines = lines := by rw [← hs]
  have hleft : s.left = lines.length + 1 := by rw [← hs]; rfl
  have hdropped : s.feed.channel.dropped = 0 := by rw [← hs]; rfl
  have faithful : Faithful token (Feed.eventsOf lines) s := by
    rw [← hs]
    refine ⟨rfl, rfl, rfl, fun _ e => ?_, fun _ => htoken, fun e => ?_, fun _ => ?_⟩
    · cases e
    · cases e
    · exact (List.nil_append _).trans (List.nil_append _)
  refine ⟨fun turns h => ?_, fun turns h hclosed => ?_, fun turns hclosed => ?_,
    fun turns n hrooms hqueue => ?_, fun turns hrooms => ?_,
    fun first after after' e hclosing turns => ?_⟩
  · refine ⟨(s.run turns).feed.coming, ?_⟩
    rw [List.append_assoc]
    exact (faithful.run turns).events h
  · obtain ⟨hsink, hqueue⟩ := stopped_of_closed hclosed
    have hevents := (faithful.run turns).events h
    rwa [hqueue, Feed.coming_of_stopped hsink, List.append_nil, List.append_nil] at hevents
  · exact (faithful.run turns).stopped (stopped_of_closed hclosed).1
  · have hstopped : (s.run turns).feed.channel.hasSink = false := by
      refine hasSink_of_left ?_
      have hle := left_run faithful turns
      omega
    rw [queue_run_receive, Channel.receive, List.drop_eq_nil_of_le hqueue]
    dsimp only
    rw [hstopped]
    rfl
  · rw [dropped_of_rooms faithful hrooms, hdropped]
  · have hsettled : s.feed.Settled (first ++ after') :=
      .inr (.inr ⟨first, after, after', hlines.trans e, rfl, hclosing⟩)
    obtain ⟨lines', hrun⟩ := run_relined hsettled true turns
    rw [hrun]
    exact ⟨rfl, rfl, rfl⟩

end FeedSession

namespace Client

/-- What comes of a watch when a daemon sends some octets and closes: the first line says whether
there is a watch, and the lines after it are what the watch is worth. -/
structure WatchExact (client : Client) (octets : List UInt8) (token : Token) (tokens : Tokens)
    (result : Except ClientError Feed) : Prop where
  silent : client.watchLines octets = [] → result = .error .noResponse
  tooLong : ∀ {rest}, client.watchLines octets = .tooLong :: rest →
    result = .error (.lineTooLong client.options.maxStreamLineBytes)
  blank : ∀ {first rest}, client.watchLines octets = .text first :: rest →
    Text.isBlank first = true → result = .error .noResponse
  undecodable : ∀ {first rest}, client.watchLines octets = .text first :: rest →
    Text.isBlank first = false → Wire.Response.ofText? (Text.trim first) = none →
      result = .error (.decode .streamAck)
  rejected : ∀ {first rest response}, client.watchLines octets = .text first :: rest →
    Text.isBlank first = false → Wire.Response.ofText? (Text.trim first) = some response →
      response.success = false →
        result = .error (.daemon ((Text.nonBlank? response.error).getD "stream rejected"))
  accepted : ∀ {first rest response}, client.watchLines octets = .text first :: rest →
    Text.isBlank first = false → Wire.Response.ofText? (Text.trim first) = some response →
      response.success = true →
        ∃ feed, result = .ok feed ∧ FeedSession.Serves ⟨feed, tokens, []⟩ token rest

theorem watchAnswer_text (limit : Nat) {first : String} (hfirst : Text.isBlank first = false)
    (rest : List Line) : watchAnswer limit (.text first :: rest) =
      (fun _ => rest) <$> acknowledged (Text.trim first) := by
  rw [watchAnswer, Text.nonBlank?_of_isBlank hfirst]

/-- A watch delivers the events of what a daemon sends, however it is cut into chunks, from the first
line after the acknowledgement to the first terminal event. -/
theorem openWatch_exact (client : Client) {taskId id : String} {token : Token} {tokens : Tokens}
    {net : Network} {octets : List UInt8} (hid : Text.nonBlank? taskId = some id)
    (htoken : tokens.isCancelled token = false) (h : client.Sends id net octets)
    (capacity : Nat) : client.WatchExact octets token tokens
      (client.openWatch taskId capacity token tokens net).1 := by
  rw [client.openWatch_eq hid htoken h capacity]
  refine ⟨fun hlines => ?_, fun hlines => ?_, fun hlines hblank => ?_, fun hlines hfirst hnone => ?_,
    fun hlines hfirst hsome hsuccess => ?_, fun {first rest response} hlines hfirst hsome hsuccess => ?_⟩
  · rw [hlines]
    rfl
  · rw [hlines]
    rfl
  · rw [hlines, watchAnswer, Text.nonBlank?, if_pos hblank]
    rfl
  · rw [hlines, watchAnswer_text _ hfirst, acknowledged, hnone]
    rfl
  · rw [hlines, watchAnswer_text _ hfirst, acknowledged, hsome]
    dsimp only
    rw [if_neg (by rw [hsuccess]; decide)]
    rfl
  · refine ⟨_, ?_, FeedSession.serves_new htoken id capacity rest⟩
    rw [hlines, watchAnswer_text _ hfirst, acknowledged, hsome]
    dsimp only
    rw [if_pos hsuccess]
    rfl

/-! ### A watch in two chunks -/

/-- A client of a local daemon. -/
def neighbour : Client := { name := "local", endpoint := .unix "daemon.sock" }

/-- What the daemon sends: the acknowledgement, a line that cannot be read, and the end. -/
def reply : List (List UInt8) :=
  [Utf8.encode "\x7b\"success\":true\x7d\r\n\x7b\n\n\x7b\"type\":",
    Utf8.encode "\"completed\"\x7d\n"]

/-- A daemon that reads the request, sends its reply in two chunks and closes. -/
def neighbourhood : Network :=
  ⟨[{ endpoint := .unix "daemon.sock", scripts := [.read :: reply.map .write] }]⟩

/-- The reply acknowledges the watch, and three lines are left for it. -/
theorem openWatch_neighbour : ∃ feed,
    (neighbour.openWatch " t " 32 0 {} neighbourhood).1 = .ok feed ∧
      FeedSession.Serves ⟨feed, {}, []⟩ 0
        [.text "\x7b", .text "", .text "\x7b\"type\":\"completed\"\x7d"] := by
  have hid : Text.nonBlank? " t " = some "t" := by decide +kernel
  have hlines : neighbour.watchLines reply.flatten = [.text "\x7b\"success\":true\x7d",
      .text "\x7b", .text "", .text "\x7b\"type\":\"completed\"\x7d"] := by decide +kernel
  have hresponse : Wire.Response.ofText? (Text.trim "\x7b\"success\":true\x7d") =
      some { success := true } := by decide +kernel
  have hsends : neighbour.Sends "t" neighbourhood reply.flatten :=
    sends_of_writes rfl rfl rfl rfl rfl "t"
  have watch := openWatch_exact neighbour hid (rfl : Tokens.isCancelled {} 0 = false) hsends 32
  exact watch.accepted hlines (by decide +kernel) hresponse rfl

end Client

end TaskWatch
