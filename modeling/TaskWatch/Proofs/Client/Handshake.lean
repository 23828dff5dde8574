import Mathlib.Data.List.Basic
import TaskWatch.Client.Operation
import TaskWatch.Proofs.Client.Speech
import TaskWatch.Proofs.Text.NonBlank

/-!
# The token stands before every request

Over the network a client with a token shows it before it asks for anything. The first line that
comes decides whether it goes on: the request follows when that line is `OK`, and nothing is written
any more otherwise. On a local socket, or without a token, the request is the first thing that is
written. In either case the answer is the next line that comes after what was read already
(`Client.Exchange`).

An `Errand` is any of the things that a client can be asked to do, with the request that it comes to,
the limits that are in force, and what an answer is worth for it. All of them write and read alike
(`Errand.handled`).
-/

namespace TaskWatch

/-! ## The exchange -/

/-- The answer to a request after which this is said: the next line, which must not be blank. -/
def Speech.answer (s : Speech) (limit : Nat) (time : Duration) : Except ClientError String :=
  match (s.next limit).awaited limit time with
  | .ok (some line) =>
    match Text.nonBlank? line with
    | some line => .ok line
    | none => .error .noResponse
  | .ok none => .error .noResponse
  | .error e => .error e

/-- What becomes of a token after which this is said. -/
def Speech.admission (s : Speech) (limit : Nat) (time : Duration) : Except ClientError Unit :=
  match (s.next limit).awaited limit time with
  | .ok (some reply) => if Text.trim reply = "OK" then .ok () else .error (.auth (Text.trim reply))
  | .ok none => .error (.auth "connection closed during handshake")
  | .error e => .error e

namespace Speech

variable {s rest : Speech} {piece : List UInt8} {reply : String} {limit : Nat}

theorem admission_of_text (hline : s.line? = some (piece, rest))
    (hreply : Line.ofPiece limit piece = .text reply) (time : Duration) :
    s.admission limit time =
      if Text.trim reply = "OK" then .ok () else .error (.auth (Text.trim reply)) := by
  rw [admission, next, hline]
  dsimp only
  rw [hreply, LineRead.awaited]

theorem admission_of_tooLong (hline : s.line? = some (piece, rest))
    (hlong : Line.ofPiece limit piece = .tooLong) (time : Duration) :
    s.admission limit time = .error (.lineTooLong limit) := by
  rw [admission, next, hline]
  dsimp only
  rw [hlong, LineRead.awaited]

theorem admission_of_none (hnone : s.line? = none) (limit : Nat) (time : Duration) :
    s.admission limit time = .error
      (if s.closed then .auth "connection closed during handshake" else .timeout time) := by
  rw [admission, next, hnone]
  dsimp only
  cases s.closed <;> rfl

end Speech

namespace Client

/-- The octets that show the token of a client. -/
def tokenLine (client : Client) : List UInt8 :=
  Utf8.encode ("AUTH " ++ Text.trim client.authToken ++ "\n")

theorem tokenLine_eq (client : Client) :
    Utf8.encode (Conversation.authLine (Text.trim client.authToken)) = client.tokenLine := rfl

/-- What a client with a token writes for a request, and the answer, when the daemon follows a
script. -/
structure Gated (client : Client) (limit : Nat) (request : Wire.Request) (script : Script)
    (written : List UInt8) (answer : Except ClientError String) : Prop where
  /-- The request follows the token when the first line is `OK`, and its answer is the line after
  that one. -/
  accepted : ∀ {piece rest reply}, (script.said client.tokenLine).line? = some (piece, rest) →
    Line.ofPiece limit piece = .text reply → Text.trim reply = "OK" →
    written = client.tokenLine ++ Utf8.encode request.line ∧
      ∃ rest', (script.said (client.tokenLine ++ Utf8.encode request.line)).line? =
        some (piece, rest') ∧ answer = rest'.answer limit client.options.requestTimeout
  /-- After any other line, or without one, nothing more is written. -/
  refused : ∀ {piece rest reply}, (script.said client.tokenLine).line? = some (piece, rest) →
    Line.ofPiece limit piece = .text reply → Text.trim reply ≠ "OK" →
    written = client.tokenLine ∧ answer = .error (.auth (Text.trim reply))
  tooLong : ∀ {piece rest}, (script.said client.tokenLine).line? = some (piece, rest) →
    Line.ofPiece limit piece = .tooLong →
    written = client.tokenLine ∧ answer = .error (.lineTooLong limit)
  silent : (script.said client.tokenLine).line? = none →
    written = client.tokenLine ∧ answer = .error
      (if (script.said client.tokenLine).closed then .auth "connection closed during handshake"
        else .timeout client.options.connectTimeout)

/-- What a client writes for a request, and the answer, when the daemon follows a script. -/
structure Exchange (client : Client) (limit : Nat) (request : Wire.Request) (script : Script)
    (written : List UInt8) (answer : Except ClientError String) : Prop where
  gated : client.endpoint.isNetwork = true → Text.isBlank client.authToken = false →
    Gated client limit request script written answer
  /-- No token is shown on a local socket, and none that is blank. -/
  plain : client.endpoint.isNetwork = false ∨ Text.isBlank client.authToken = true →
    written = Utf8.encode request.line ∧
      answer = (script.said (Utf8.encode request.line)).answer limit client.options.requestTimeout

end Client

namespace Conversation

namespace At

variable {c : Conversation} {limit : Nat} {written : List UInt8} {hears : List UInt8 → Speech}

/-- Asking gives the answer. -/
theorem ask (h : c.At limit written hears) (request : Wire.Request) (time : Duration) :
    (Conversation.ask request time c).1 = (hears (Utf8.encode request.line)).answer limit time ∧
      (Conversation.ask request time c).2.written = written ++ Utf8.encode request.line := by
  obtain ⟨hread, hears', hafter, -⟩ := (h.send request.line).awaitLine time
  rw [List.append_nil] at hread
  have hwritten := hafter.written
  rw [Conversation.ask, Speech.answer, ← hread]
  generalize Conversation.awaitLine time (c.send request.line) = read at hwritten
  obtain ⟨line?, c'⟩ := read
  cases line? with
  | error e => exact ⟨rfl, hwritten⟩
  | ok line? =>
    cases line? with
    | none => exact ⟨rfl, hwritten⟩
    | some line =>
      dsimp only
      cases Text.nonBlank? line <;> exact ⟨rfl, hwritten⟩

/-- Showing a token takes one line from what can be read. -/
theorem authenticate (h : c.At limit written hears) (token : String) (time : Duration) :
    (Conversation.authenticate token time c).1 =
        (hears (Utf8.encode (authLine token))).admission limit time ∧
      ∃ hears', (Conversation.authenticate token time c).2.At limit
          (written ++ Utf8.encode (authLine token)) hears' ∧
        ∀ {piece rest}, (hears (Utf8.encode (authLine token))).line? = some (piece, rest) →
          ∀ more, (hears (Utf8.encode (authLine token) ++ more)).line? =
            some (piece, hears' more) := by
  obtain ⟨hread, hears', hafter, hleft⟩ := (h.send (authLine token)).awaitLine time
  rw [List.append_nil] at hread hleft
  rw [Conversation.authenticate, Speech.admission, ← hread]
  generalize Conversation.awaitLine time (c.send (authLine token)) = read at hafter
  obtain ⟨reply?, c'⟩ := read
  cases reply? with
  | error e => exact ⟨rfl, hears', hafter, hleft⟩
  | ok reply? =>
    cases reply? with
    | none => exact ⟨rfl, hears', hafter, hleft⟩
    | some reply =>
      dsimp only
      by_cases hok : Text.trim reply = authAccepted
      · rw [if_pos hok, if_pos (show Text.trim reply = "OK" from hok)]
        exact ⟨rfl, hears', hafter, hleft⟩
      · rw [if_neg hok, if_neg (show ¬Text.trim reply = "OK" from hok)]
        exact ⟨rfl, hears', hafter, hleft⟩

end At

end Conversation

namespace Client

variable (client : Client) (limit : Nat) (request : Wire.Request) (script : Script)

/-- A client with a token shows it on a new connection before it asks. -/
theorem converse_gated (hnetwork : client.endpoint.isNetwork = true)
    (hblank : Text.isBlank client.authToken = false) :
    Gated client limit request script
      (client.converse (Conversation.ask request client.options.requestTimeout)
        (.start script limit)).2.written
      (client.converse (Conversation.ask request client.options.requestTimeout)
        (.start script limit)).1 := by
  have start := Conversation.at_start script limit
  generalize Conversation.start script limit = c at start
  have hshown : client.shownToken? = some (Text.trim client.authToken) := by
    rw [shownToken?, if_pos hnetwork, Text.nonBlank?_of_isBlank hblank]
  have hgreet : client.greet c = Conversation.authenticate (Text.trim client.authToken)
      client.options.connectTimeout c := by
    rw [greet, hshown]
  obtain ⟨hadmission, hears', hafter, hleft⟩ :=
    start.authenticate (Text.trim client.authToken) client.options.connectTimeout
  rw [tokenLine_eq] at hadmission hafter hleft
  rw [List.nil_append] at hafter
  rw [converse, hgreet]
  generalize Conversation.authenticate (Text.trim client.authToken)
    client.options.connectTimeout c = greeted at hadmission hafter
  obtain ⟨admitted, c'⟩ := greeted
  dsimp only at hadmission hafter
  obtain ⟨hanswer, hasked⟩ := hafter.ask request client.options.requestTimeout
  constructor
  case accepted =>
    intro piece rest reply hline hreply hok
    rw [hadmission, Speech.admission_of_text hline hreply, if_pos hok]
    exact ⟨hasked, _, hleft hline _, hanswer⟩
  case refused =>
    intro piece rest reply hline hreply hother
    rw [hadmission, Speech.admission_of_text hline hreply, if_neg hother]
    exact ⟨hafter.written, rfl⟩
  case tooLong =>
    intro piece rest hline hlong
    rw [hadmission, Speech.admission_of_tooLong hline hlong]
    exact ⟨hafter.written, rfl⟩
  case silent =>
    intro hnone
    rw [hadmission, Speech.admission_of_none hnone]
    exact ⟨hafter.written, rfl⟩

/-- A client that has no token to show asks at once. -/
theorem converse_plain
    (hplain : client.endpoint.isNetwork = false ∨ Text.isBlank client.authToken = true) :
    (client.converse (Conversation.ask request client.options.requestTimeout)
        (.start script limit)).2.written = Utf8.encode request.line ∧
      (client.converse (Conversation.ask request client.options.requestTimeout)
        (.start script limit)).1 =
        (script.said (Utf8.encode request.line)).answer limit client.options.requestTimeout := by
  have hshown : client.shownToken? = none := by
    rw [shownToken?, Text.nonBlank?]
    obtain hlocal | hblank := hplain
    · rw [if_neg (by rw [hlocal]; decide)]
    · rw [if_pos hblank, ite_self]
  have hgreet : ∀ c, client.greet c = (.ok (), c) := fun c => by rw [greet, hshown]
  rw [converse, hgreet]
  exact ((Conversation.at_start script limit).ask request client.options.requestTimeout).symm

/-- A request is exchanged on a new connection. -/
theorem exchange :
    Exchange client limit request script
      (client.converse (Conversation.ask request client.options.requestTimeout)
        (.start script limit)).2.written
      (client.converse (Conversation.ask request client.options.requestTimeout)
        (.start script limit)).1 :=
  ⟨client.converse_gated limit request script, client.converse_plain limit request script⟩

end Client

/-! ## Connections -/

namespace Network

/-- The script of the next connection to an endpoint; none if nothing listens there. -/
def scriptAt? (net : Network) (endpoint : Endpoint) : Option Script :=
  (net.hosts.find? (·.endpoint == endpoint)).map (·.nextScript)

/-- The network after one more conversation at an endpoint. -/
def conversed (net : Network) (endpoint : Endpoint) (c : Conversation) : Network :=
  ⟨net.hosts.modify (net.hosts.findIdx (·.endpoint == endpoint)) fun host =>
    { host with conversations := host.conversations ++ [c] }⟩

/-- To connect is to start a conversation. -/
theorem connect_eq (net : Network) (endpoint : Endpoint) (limit : Nat) :
    match net.scriptAt? endpoint with
    | none => net.connect endpoint limit = none
    | some script => ∃ link joined,
      net.connect endpoint limit = some (link, .start script limit, joined) ∧
        ∀ c, joined.update link c = net.conversed endpoint c := by
  rw [scriptAt?, connect]
  cases hfind : net.hosts.findIdx? (·.endpoint == endpoint) with
  | none =>
    have hnone : net.hosts.find? (·.endpoint == endpoint) = none := by
      rw [List.find?_eq_none]
      simpa using hfind
    rw [hnone]
    rfl
  | some i =>
    obtain ⟨hlt, hi⟩ := List.findIdx?_eq_some_iff_findIdx_eq.1 hfind
    have hhost : net.hosts.find? (·.endpoint == endpoint) = some net.hosts[i] := by
      rw [List.find?_eq_getElem?_findIdx, hi, List.getElem?_eq_getElem hlt]
    rw [hhost, Option.map_some]
    refine ⟨⟨i, net.hosts[i].conversations.length⟩, ⟨net.hosts.set i { net.hosts[i] with
      conversations := net.hosts[i].conversations ++ [.start net.hosts[i].nextScript limit] }⟩, ?_,
      fun c => ?_⟩
    · simp only [Option.bind_eq_bind, Option.bind_some, List.getElem?_eq_getElem hlt]
      rfl
    · have hset : (net.hosts[i].conversations ++ [Conversation.start net.hosts[i].nextScript limit]).set
          net.hosts[i].conversations.length c = net.hosts[i].conversations ++ [c] := by
        rw [List.set_append_right _ _ (Nat.le_refl _), Nat.sub_self]
        rfl
      rw [update, conversed, hi, List.modify_eq_set_get _ (by rw [List.length_set]; exact hlt),
        List.modify_eq_set_get _ hlt, List.set_set]
      simp only [List.get_eq_getElem, List.getElem_set_self, hset]

end Network

namespace Client

/-- What is done on a new connection, if it comes down to asking. -/
theorem withConnection_exchange {β γ : Type} (client : Client) (limit : Nat)
    (request : Wire.Request) {dialogue : Dialogue β} (judge : Except ClientError β → γ)
    (worth : Except ClientError String → γ)
    (hdialogue : ∀ c, judge (dialogue c).1 =
        worth (Conversation.ask request client.options.requestTimeout c).1 ∧
      (dialogue c).2 = (Conversation.ask request client.options.requestTimeout c).2)
    (herror : ∀ e, judge (.error e) = worth (.error e)) (net : Network) :
    match net.scriptAt? client.endpoint with
    | none => (judge (client.withConnection limit dialogue net).1,
        (client.withConnection limit dialogue net).2) =
        (worth (.error (.connect client.endpoint.address)), net)
    | some script => ∃ c answer, (judge (client.withConnection limit dialogue net).1,
        (client.withConnection limit dialogue net).2) =
        (worth answer, net.conversed client.endpoint c) ∧
          Exchange client limit request script c.written answer := by
  have hconnect := net.connect_eq client.endpoint limit
  cases hscript : net.scriptAt? client.endpoint with
  | none =>
    rw [hscript] at hconnect
    dsimp only at hconnect
    rw [withConnection, hconnect, ← herror]
  | some script =>
    rw [hscript] at hconnect
    obtain ⟨link, joined, hconnect, hupdate⟩ := hconnect
    refine ⟨_, _, ?_, client.exchange limit request script⟩
    rw [withConnection, hconnect]
    dsimp only
    rw [hupdate, converse, converse]
    generalize client.greet (.start script limit) = greeted
    obtain ⟨admitted, c⟩ := greeted
    cases admitted with
    | error e =>
      dsimp only
      rw [herror]
    | ok _ =>
      dsimp only
      rw [(hdialogue c).1, (hdialogue c).2]

/-- To ask for a watch is to ask for its acknowledgement. -/
theorem requestWatch_eq_ask {β : Type} (client : Client) (id : String) (opened : β)
    (c : Conversation) :
    (fun _ => opened) <$> (client.requestWatch id c).1 = (do
        acknowledged (← (Conversation.ask (watchRequest id) client.options.requestTimeout c).1)
        return opened) ∧
      (client.requestWatch id c).2 =
        (Conversation.ask (watchRequest id) client.options.requestTimeout c).2 := by
  rw [requestWatch, ← watchRequest]
  generalize Conversation.ask (watchRequest id) client.options.requestTimeout c = asked
  obtain ⟨answer, c'⟩ := asked
  cases answer with
  | error e => exact ⟨rfl, rfl⟩
  | ok line =>
    refine ⟨?_, rfl⟩
    show _ <$> _ <$> acknowledged line = (acknowledged line >>= fun _ => pure opened)
    cases acknowledged line <;> rfl

/-- A watch that is asked for is opened with its channel. -/
theorem openWatch_channel {client : Client} {taskId id : String} {token : Token} {tokens : Tokens}
    (hid : Text.nonBlank? taskId = some id) (htoken : tokens.isCancelled token = false)
    (capacity : Nat) (net : Network) :
    ((·.channel) <$> (client.openWatch taskId capacity token tokens net).1,
        (client.openWatch taskId capacity token tokens net).2) =
      ((fun _ => Channel.new id capacity token) <$>
        (client.withConnection client.options.maxStreamLineBytes (client.requestWatch id) net).1,
        (client.withConnection client.options.maxStreamLineBytes (client.requestWatch id) net).2) := by
  rw [openWatch, hid]
  dsimp only
  rw [if_neg (by rw [htoken]; decide)]
  generalize client.withConnection client.options.maxStreamLineBytes (client.requestWatch id) net =
    opened
  obtain ⟨result, net'⟩ := opened
  cases result <;> rfl

end Client

/-! ## Errands -/

/-- What a client can be asked to do with a daemon. -/
inductive Errand : Type → Type where
  | listProcesses : Errand (List Wire.ProcessInfo)
  | submit (submission : Submission) : Errand Task
  | get (taskId : String) : Errand Task
  | list : Errand (List Task)
  | listFiltered (filter : TaskFilter) : Errand (List Task)
  | delete (scope : DeleteScope) : Errand Unit
  | metrics : Errand Wire.Metrics
  | lifecycle (agentName kind : String) (data : Json) : Errand Unit
  | watch (taskId : String) (capacity : Nat) (token : Token) (tokens : Tokens) : Errand Channel

namespace Errand

variable {α : Type}

/-- What a client does on an errand. Of a watch that was opened only its channel is told. -/
def run (client : Client) (net : Network) : Errand α → Except ClientError α × Network
  | listProcesses => client.listProcesses net
  | submit submission => client.submit submission net
  | get taskId => client.get taskId net
  | list => client.list net
  | listFiltered filter => client.listFiltered filter net
  | delete scope => client.delete scope net
  | metrics => client.metrics net
  | lifecycle agentName kind data => (.ok (), client.sendLifecycle agentName kind data net)
  | watch taskId capacity token tokens =>
    let (opened, net) := client.openWatch taskId capacity token tokens net
    ((·.channel) <$> opened, net)

/-- The request of an errand, or what comes of an errand that needs none. -/
def request? : Errand α → Except (Except ClientError α) Wire.Request
  | listProcesses => .ok { kind := .list }
  | submit submission => submission.request.mapError .error
  | get taskId =>
    match Text.nonBlank? taskId with
    | none => .error (.error (.invalidRequest .noTaskId))
    | some id => .ok { kind := .toolGet, taskId := id }
  | list | listFiltered _ => .ok { kind := .toolList }
  | delete scope => if scope.key = "" then .error (.ok ()) else .ok scope.request
  | metrics => .ok { kind := .toolMetrics }
  | lifecycle agentName kind data => .ok (Client.lifecycleRequest agentName kind data)
  | watch taskId _ token tokens =>
    match Text.nonBlank? taskId with
    | none => .error (.error (.invalidRequest .noTaskId))
    | some id =>
      if tokens.isCancelled token then .error (.error .cancelled)
      else .ok { kind := .toolWatch, taskId := id }

/-- The longest line that is taken on an errand. -/
def maxLine (options : ClientOptions) : Errand α → Nat
  | listProcesses | metrics | lifecycle _ _ _ => options.maxLineBytes
  | watch _ _ _ _ => options.maxStreamLineBytes
  | _ => options.maxTaskLineBytes

/-- The client on an errand: it has less time to tell an agent of a change. -/
def sent (client : Client) : Errand α → Client
  | lifecycle _ _ _ => client.within Client.lifecycleLimit
  | _ => client

/-- What the line of a response is worth, when a part of it is asked for. -/
def responded (standard : String) (part : Wire.Response → Except ClientError α) (line : String) :
    Except ClientError α := do
  part (← (← Wire.Response.ofLine line).succeeded standard)

/-- What the line of an answer is worth. -/
def judge : Errand α → String → Except ClientError α
  | listProcesses, line => responded Client.standardFailure (.ok ·.processes) line
  | submit _, line => responded Client.standardFailure (·.theTask) line
  | get _, line => responded "task not found" (·.theTask) line
  | list, line => responded Client.standardFailure (·.allTasks) line
  | listFiltered filter, line => filter.apply <$> responded Client.standardFailure (·.allTasks) line
  | delete _, line => responded Client.standardFailure (fun _ => .ok ()) line
  | metrics, line => responded "failed to fetch metrics" (·.theMetrics) line
  | lifecycle _ _ _, _ => .ok ()
  | watch taskId capacity token _, line => do
    Client.acknowledged line
    return .new (Text.trim taskId) capacity token

/-- What an answer is worth. A failure is one of the errand, unless an agent is told of a change. -/
def worth (answer : Except ClientError String) : Errand α → Except ClientError α
  | lifecycle _ _ _ => .ok ()
  | errand => answer >>= errand.judge

/-- How an errand goes: it needs no request, or nothing listens, or its request is exchanged in one
more conversation with the daemon. -/
def Handled (errand : Errand α) (client : Client) (net : Network) : Prop :=
  match errand.request? with
  | .error result => errand.run client net = (result, net)
  | .ok request =>
    match net.scriptAt? client.endpoint with
    | none => errand.run client net = (errand.worth (.error (.connect client.endpoint.address)), net)
    | some script => ∃ c answer,
      errand.run client net = (errand.worth answer, net.conversed client.endpoint c) ∧
        Client.Exchange (errand.sent client) (errand.maxLine client.options) request script
          c.written answer

section

variable {errand : Errand α} {client : Client} {net : Network}

/-- An errand that comes down to asking is handled. -/
theorem handled_of_dialogue {β : Type} (request : Wire.Request) (dialogue : Dialogue β)
    (judge : Except ClientError β → Except ClientError α)
    (hrequest : errand.request? = .ok request)
    (hsent : (errand.sent client).endpoint = client.endpoint)
    (hrun : errand.run client net =
      (judge ((errand.sent client).withConnection (errand.maxLine client.options) dialogue net).1,
        ((errand.sent client).withConnection (errand.maxLine client.options) dialogue net).2))
    (hdialogue : ∀ c, judge (dialogue c).1 =
        errand.worth (Conversation.ask request (errand.sent client).options.requestTimeout c).1 ∧
      (dialogue c).2 =
        (Conversation.ask request (errand.sent client).options.requestTimeout c).2)
    (herror : ∀ e, judge (.error e) = errand.worth (.error e)) : errand.Handled client net := by
  have hexchange := (errand.sent client).withConnection_exchange (errand.maxLine client.options)
    request judge errand.worth hdialogue herror net
  rw [Handled, hrequest, hrun]
  rw [hsent] at hexchange
  exact hexchange

/-- The dialogue of a call is to ask for a response. -/
theorem roundTrip_eq (request : Wire.Request) (time : Duration) (c : Conversation) :
    Conversation.roundTrip request time c =
      ((Conversation.ask request time c).1 >>= Wire.Response.ofLine,
        (Conversation.ask request time c).2) := by
  rw [Conversation.roundTrip]
  generalize Conversation.ask request time c = asked
  obtain ⟨line, c'⟩ := asked
  cases line <;> rfl

/-- An errand that is one call is handled. -/
theorem handled_of_call {β : Type} {standard : String} {part : Wire.Response → Except ClientError β}
    (request : Wire.Request) (finish : Except ClientError β → Except ClientError α)
    (hrequest : errand.request? = .ok request)
    (hsent : errand.sent client = client)
    (hrun : errand.run client net =
      (finish (client.call request (errand.maxLine client.options) standard part net).1,
        (client.call request (errand.maxLine client.options) standard part net).2))
    (hworth : ∀ answer, errand.worth answer = finish (answer >>= responded standard part)) :
    errand.Handled client net := by
  refine handled_of_dialogue request
    (Conversation.roundTrip request client.options.requestTimeout)
    (fun response => finish (do part (← (← response).succeeded standard))) hrequest
    (by rw [hsent]) ?_ (fun c => ?_) fun e => ?_
  · rw [hsent]
    exact hrun
  · rw [hsent, roundTrip_eq, hworth]
    exact ⟨by rw [bind_assoc]; rfl, rfl⟩
  · rw [hworth]
    rfl

/-- An errand that needs no request is handled. -/
theorem handled_of_error (result : Except ClientError α) (hrequest : errand.request? = .error result)
    (hrun : errand.run client net = (result, net)) : errand.Handled client net := by
  rw [Handled, hrequest]
  exact hrun

end

/-- Whatever a client is asked to do, the token stands before its request, and the request is written
only if the token was accepted. -/
theorem handled (errand : Errand α) (client : Client) (net : Network) :
    errand.Handled client net := by
  cases errand with
  | listProcesses => exact handled_of_call _ id rfl rfl rfl fun _ => rfl
  | list => exact handled_of_call _ id rfl rfl rfl fun _ => rfl
  | listFiltered filter =>
    refine handled_of_call _ (filter.apply <$> ·) rfl rfl rfl fun answer => ?_
    cases answer <;> rfl
  | metrics => exact handled_of_call _ id rfl rfl rfl fun _ => rfl
  | submit submission =>
    cases hrequest : submission.request with
    | error e =>
      refine handled_of_error (.error e) ?_ ?_
      · rw [request?, hrequest]
        rfl
      · rw [run, Client.submit, hrequest]
    | ok request =>
      refine handled_of_call request id ?_ rfl ?_ fun _ => rfl
      · rw [request?, hrequest]
        rfl
      · rw [run, Client.submit, hrequest]
        rfl
  | get taskId =>
    cases hid : Text.nonBlank? taskId with
    | none =>
      refine handled_of_error (.error (.invalidRequest .noTaskId)) ?_ ?_
      · rw [request?, hid]
      · rw [run, Client.get, hid]
    | some id =>
      refine handled_of_call { kind := .toolGet, taskId := id } (fun task => task) ?_ rfl ?_
        fun _ => rfl
      · rw [request?, hid]
      · rw [run, Client.get, hid]
        rfl
  | delete scope =>
    by_cases hkey : scope.key = ""
    · refine handled_of_error (.ok ()) ?_ ?_
      · rw [request?, if_pos hkey]
      · rw [run, Client.delete, if_pos hkey]
    · refine handled_of_call scope.request id ?_ rfl ?_ fun _ => rfl
      · rw [request?, if_neg hkey]
      · rw [run, Client.delete, if_neg hkey]
        rfl
  | lifecycle agentName kind data =>
    refine handled_of_dialogue (Client.lifecycleRequest agentName kind data)
      (Conversation.roundTrip (Client.lifecycleRequest agentName kind data)
        (client.within Client.lifecycleLimit).options.requestTimeout)
      (fun _ => .ok ()) rfl rfl rfl (fun c => ⟨rfl, ?_⟩) fun _ => rfl
    rw [roundTrip_eq]
    rfl
  | watch taskId capacity token tokens =>
    cases hid : Text.nonBlank? taskId with
    | none =>
      refine handled_of_error (.error (.invalidRequest .noTaskId)) ?_ ?_
      · rw [request?, hid]
      · rw [run, Client.openWatch, hid]
        rfl
    | some id =>
      cases htoken : tokens.isCancelled token with
      | true =>
        refine handled_of_error (.error .cancelled) ?_ ?_
        · rw [request?, hid]
          dsimp only
          rw [if_pos htoken]
        · rw [run, Client.openWatch, hid]
          dsimp only
          rw [if_pos htoken]
          rfl
      | false =>
        obtain rfl : id = Text.trim taskId := by
          rw [Text.nonBlank?, Option.ite_none_left_eq_some] at hid
          exact (Option.some.inj hid.2).symm
        refine handled_of_dialogue (Client.watchRequest (Text.trim taskId))
          (client.requestWatch (Text.trim taskId))
          ((fun _ => .new (Text.trim taskId) capacity token) <$> ·) ?_ rfl
          (Client.openWatch_channel hid htoken capacity net)
          (client.requestWatch_eq_ask (Text.trim taskId) _) fun _ => rfl
        rw [request?, hid]
        dsimp only
        rw [htoken]
        rfl

/-- A daemon that accepts the token and answers in one piece reads the request all the same. -/
example : (listProcesses.run ⟨"d", .tcp "h:1", " t ", {}⟩ ⟨[{ endpoint := .tcp "h:1", scripts :=
      [[.read, .write (Utf8.encode "OK\n\x7b\"success\":true\x7d\n"), .read]] }]⟩).2.hosts.map
    (·.received) = [[["AUTH t\n", "\x7b\"type\":\"list\"\x7d\n"]]] := by
  decide +kernel

end Errand

end TaskWatch
