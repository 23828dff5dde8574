import TaskWatch.Proofs.Client.Handshake
import TaskWatch.Proofs.Line.Calls
import TaskWatch.Proofs.Task.Received
import TaskWatch.Proofs.Text.NonBlank

/-!
# What a call comes to

When a daemon has closed its end, the first line that it has sent (`Line.first?`) is all that a call
depends on, however the octets came in chunks and whatever follows the line. There may be no such
line, or none that says anything; it may be too long, or no response; and a response may report a
failure, or lack what the call asks for. `Errand.Decided` tells what each of these comes to, for
every errand that is one call (`Errand.IsCall`).

* `Speech.next_of_closed`: from a daemon that has closed, one reads the first line or the end;
* `Errand.judge_response`: what a response is worth;
* `Errand.outcome_exact`: what a call comes to.
-/

namespace TaskWatch

/-! ## The first line -/

/-- The first line of octets under a limit. -/
def Line.first? (limit : Nat) (octets : List UInt8) : Option Line :=
  (Line.split octets).head?.map (Line.ofPiece limit)

namespace Speech

/-- From a daemon that has closed its end one reads the first line, or finds the end. -/
theorem next_of_closed (octets : List UInt8) (limit : Nat) :
    (Speech.mk octets true).next limit = (Line.first? limit octets).elim .finished .line := by
  let r : LineReader := { limit := limit, chunks := [octets], ended := true }
  have hoctets : r.chunks.flatten = octets := List.flatten_singleton
  have hread : r.next.1 = (Speech.mk octets true).next limit := by
    rw [r.next_eq.1, LineReader.speech, hoctets]
  rw [← hread, Line.first?, ← Line.pieces_eq_split]
  cases hpieces : Line.pieces octets with
  | nil => rw [LineReader.next_eq_finished rfl (hoctets ▸ hpieces)]; rfl
  | cons piece later =>
    obtain ⟨chunks, hnext, -⟩ := LineReader.next_eq_line (r := r) rfl (hoctets ▸ hpieces)
    rw [hnext]
    rfl

section

variable {octets : List UInt8} {limit : Nat} (time : Duration)

/-- Without a first line there is no answer. -/
theorem answer_of_none (h : Line.first? limit octets = none) :
    (Speech.mk octets true).answer limit time = .error .noResponse := by
  rw [answer, next_of_closed, h]
  rfl

theorem answer_of_tooLong (h : Line.first? limit octets = some .tooLong) :
    (Speech.mk octets true).answer limit time = .error (.lineTooLong limit) := by
  rw [answer, next_of_closed, h]
  rfl

theorem answer_of_text {line : String} (h : Line.first? limit octets = some (.text line)) :
    (Speech.mk octets true).answer limit time =
      if Text.isBlank line then .error .noResponse else .ok (Text.trim line) := by
  rw [answer, next_of_closed, h]
  dsimp only [Option.elim, LineRead.awaited]
  rw [Text.nonBlank?]
  cases Text.isBlank line <;> rfl

end

end Speech

/-- A daemon that reads the request, and then writes and closes, has said all that it wrote. -/
theorem Script.said_writes (chunks : List (List UInt8)) (request : Wire.Request) :
    Script.said (.read :: chunks.map .write) (Utf8.encode request.line) =
      ⟨chunks.flatten, true⟩ := by
  have writes (later : List UInt8) :
      Script.said (chunks.map .write) later = ⟨chunks.flatten, true⟩ := by
    induction chunks with
    | nil => rfl
    | cons octets chunks ih => rw [List.map_cons, Script.said, ih, List.flatten_cons]
  obtain ⟨before, after, hcut⟩ := Line.cut_of_mem request.newline_mem_line
  rw [Script.said, hcut]
  exact writes after

namespace Errand

variable {α : Type}

/-! ## Responses -/

/-- An errand that is one call, and has what it needs to be one. -/
def IsCall : Errand α → Prop
  | submit submission => Text.isBlank submission.toolName = false
  | get taskId => Text.isBlank taskId = false
  | delete scope => Text.isBlank scope.key = false
  | listProcesses | list | listFiltered _ | metrics => True
  | lifecycle _ _ _ | watch _ _ _ _ => False

/-- What a failure is called on an errand when the daemon gives no message. -/
def standard : Errand α → String
  | get _ => "task not found"
  | metrics => "failed to fetch metrics"
  | _ => "unknown error"

/-- What becomes of the task that a response has to carry. -/
def TaskGranted (task? : Option Wire.Task) (result : Except ClientError Task) : Prop :=
  match task? with
  | none => result = .error (.missingPayload .task)
  | some raw => Task.Received raw result

/-- What a response that reports success comes to: what the errand asks for, if it is there and can
be read. -/
def Granted (response : Wire.Response) : Errand α → Except ClientError α → Prop
  | listProcesses, result => result = .ok response.processes
  | submit _, result | get _, result => TaskGranted response.task result
  | list, result => Task.AllReceived response.tasks result
  | listFiltered filter, result =>
    ∃ listed, Task.AllReceived response.tasks listed ∧ result = filter.apply <$> listed
  | delete _, result => result = .ok ()
  | metrics, result =>
    result = response.metrics.elim (.error (.missingPayload .metrics)) .ok
  | lifecycle _ _ _, _ | watch _ _ _ _, _ => False

/-- What the line of an answer comes to. -/
structure Judged (errand : Errand α) (line : String) (result : Except ClientError α) : Prop where
  undecodable : Wire.Response.ofText? line = none → result = .error (.decode .response)
  /-- A failure has a message, of the daemon or a standard one. -/
  rejected : ∀ {response}, Wire.Response.ofText? line = some response → response.success = false →
    ∃ message, Text.firstNonBlank? [response.error, errand.standard] = some message ∧
      Text.isBlank message = false ∧ result = .error (.daemon message)
  granted : ∀ {response}, Wire.Response.ofText? line = some response → response.success = true →
    errand.Granted response result

section

variable {standard line : String} {part : Wire.Response → Except ClientError α}
  {response : Wire.Response}

theorem responded_of_none (h : Wire.Response.ofText? line = none) :
    responded standard part line = .error (.decode .response) := by
  rw [responded, Wire.Response.ofLine, h]
  rfl

theorem responded_of_failure (h : Wire.Response.ofText? line = some response)
    (hfailure : response.success = false) :
    responded standard part line = .error (.reported response.error standard) := by
  have hrejected : response.succeeded standard = .error (.reported response.error standard) := by
    rw [Wire.Response.succeeded, if_neg (by rw [hfailure]; exact Bool.false_ne_true)]
  rw [responded, Wire.Response.ofLine, h]
  exact congrArg (· >>= part) hrejected

theorem responded_of_success (h : Wire.Response.ofText? line = some response)
    (hsuccess : response.success = true) : responded standard part line = part response := by
  have haccepted : response.succeeded standard = .ok response := by
    rw [Wire.Response.succeeded, if_pos hsuccess]
  rw [responded, Wire.Response.ofLine, h]
  exact congrArg (· >>= part) haccepted

end

/-- The message of a failure is the first that is not blank, if the standard one is not. -/
theorem reported_eq (message : String) {standard : String}
    (hstandard : Text.nonBlank? standard = some standard) :
    ∃ text, Text.firstNonBlank? [message, standard] = some text ∧
      ClientError.reported message standard = .daemon text := by
  refine ⟨_, Text.firstNonBlank?_concat [message] hstandard, ?_⟩
  rw [ClientError.reported, Text.firstNonBlank?, List.findSome?_singleton]

theorem nonBlank?_standard (errand : Errand α) :
    Text.nonBlank? errand.standard = some errand.standard := by
  have unknown : Text.nonBlank? "unknown error" = some "unknown error" := by decide +kernel
  have missing : Text.nonBlank? "task not found" = some "task not found" := by decide +kernel
  have uncounted : Text.nonBlank? "failed to fetch metrics" = some "failed to fetch metrics" := by
    decide +kernel
  cases errand with
  | get => exact missing
  | metrics => exact uncounted
  | _ => exact unknown

/-- An errand that comes down to what a response is worth is judged by the response. -/
theorem judged_of_responded {β : Type} {errand : Errand α}
    {part : Wire.Response → Except ClientError β} (finish : β → α) {line : String}
    {result : Except ClientError α}
    (hresult : result = finish <$> responded errand.standard part line)
    (hgranted : ∀ response, errand.Granted response (finish <$> part response)) :
    errand.Judged line result where
  undecodable h := by
    rw [hresult, responded_of_none h]
    rfl
  rejected {response} h hfailure := by
    obtain ⟨message, hmessage, hreported⟩ :=
      reported_eq response.error errand.nonBlank?_standard
    have hblank := Text.isBlank_of_nonBlank? (Text.nonBlank?_of_firstNonBlank? hmessage)
    refine ⟨message, hmessage, hblank, ?_⟩
    rw [hresult, responded_of_failure h hfailure, hreported]
    rfl
  granted {response} h hsuccess := by
    rw [hresult, responded_of_success h hsuccess]
    exact hgranted response

theorem taskGranted (response : Wire.Response) : TaskGranted response.task response.theTask := by
  unfold TaskGranted Wire.Response.theTask
  cases response.task with
  | none => rfl
  | some raw => exact Task.received raw

/-- What the line of an answer is worth on an errand that is one call. -/
theorem judge_response {errand : Errand α} (hcall : errand.IsCall) (line : String) :
    errand.Judged line (errand.judge line) := by
  have whole {β : Type} (result : Except ClientError β) : result = id <$> result := (id_map _).symm
  cases errand with
  | listProcesses => exact judged_of_responded id (whole _) fun _ => rfl
  | submit submission =>
    exact judged_of_responded id (whole _) fun response =>
      whole response.theTask ▸ taskGranted response
  | get taskId =>
    exact judged_of_responded id (whole _) fun response =>
      whole response.theTask ▸ taskGranted response
  | list =>
    exact judged_of_responded id (whole _) fun response =>
      whole response.allTasks ▸ Task.allReceived response.tasks
  | listFiltered filter =>
    exact judged_of_responded filter.apply rfl fun response =>
      ⟨response.allTasks, Task.allReceived response.tasks, rfl⟩
  | delete scope => exact judged_of_responded id (whole _) fun _ => rfl
  | metrics =>
    refine judged_of_responded id (whole _) fun response => ?_
    show id <$> response.theMetrics = _
    rw [id_map, Wire.Response.theMetrics]
    cases response.metrics <;> rfl
  | lifecycle | watch => exact hcall.elim

/-! ## Calls -/

/-- What a call comes to when a daemon sends some octets and closes. -/
structure Decided (errand : Errand α) (client : Client) (octets : List UInt8)
    (result : Except ClientError α) : Prop where
  silent : Line.first? (errand.maxLine client.options) octets = none → result = .error .noResponse
  tooLong : Line.first? (errand.maxLine client.options) octets = some .tooLong →
    result = .error (.lineTooLong (errand.maxLine client.options))
  blank : ∀ {line}, Line.first? (errand.maxLine client.options) octets = some (.text line) →
    Text.isBlank line = true → result = .error .noResponse
  judged : ∀ {line}, Line.first? (errand.maxLine client.options) octets = some (.text line) →
    Text.isBlank line = false → errand.Judged (Text.trim line) result

/-- An errand that is one call has a request. -/
theorem exists_request {errand : Errand α} (hcall : errand.IsCall) :
    ∃ request, errand.request? = .ok request := by
  cases errand with
  | listProcesses | list | listFiltered | metrics => exact ⟨_, rfl⟩
  | submit submission =>
    rw [request?, Submission.request, Text.nonBlank?_of_isBlank hcall]
    exact ⟨_, rfl⟩
  | get taskId =>
    rw [request?, Text.nonBlank?_of_isBlank hcall]
    exact ⟨_, rfl⟩
  | delete scope =>
    have hkey : ¬scope.key = "" := by
      rintro hempty
      have hblank : Text.isBlank scope.key = false := hcall
      rw [hempty] at hblank
      cases hblank
    exact ⟨scope.request, if_neg hkey⟩
  | lifecycle | watch => exact hcall.elim

theorem worth_of_isCall {errand : Errand α} (hcall : errand.IsCall)
    (answer : Except ClientError String) : errand.worth answer = answer >>= errand.judge := by
  cases errand with
  | lifecycle | watch => exact hcall.elim
  | _ => rfl

theorem sent_of_isCall {errand : Errand α} (hcall : errand.IsCall) (client : Client) :
    errand.sent client = client := by
  cases errand with
  | lifecycle | watch => exact hcall.elim
  | _ => rfl

/-- The answer to a call is all that decides it. -/
theorem decided_worth {errand : Errand α} (hcall : errand.IsCall) (client : Client)
    (octets : List UInt8) (time : Duration) : errand.Decided client octets
      (errand.worth ((Speech.mk octets true).answer (errand.maxLine client.options) time)) where
  silent h := by
    rw [worth_of_isCall hcall, Speech.answer_of_none time h]
    rfl
  tooLong h := by
    rw [worth_of_isCall hcall, Speech.answer_of_tooLong time h]
    rfl
  blank h hblank := by
    rw [worth_of_isCall hcall, Speech.answer_of_text time h, if_pos hblank]
    rfl
  judged {line} h hblank := by
    rw [worth_of_isCall hcall, Speech.answer_of_text time h, if_neg (Bool.eq_false_iff.1 hblank)]
    exact judge_response hcall (Text.trim line)

/-- On a connection on which no token is shown, the first line that a daemon sends before it closes
is all that a call comes to: however its octets are cut into chunks, and whatever follows the line. -/
theorem outcome_exact {errand : Errand α} (hcall : errand.IsCall) (client : Client)
    (hplain : client.endpoint.isNetwork = false ∨ Text.isBlank client.authToken = true)
    (net : Network) : ∃ request, errand.request? = .ok request ∧
      ∀ script octets, net.scriptAt? client.endpoint = some script →
        script.said (Utf8.encode request.line) = ⟨octets, true⟩ →
          errand.Decided client octets (errand.run client net).1 := by
  obtain ⟨request, hrequest⟩ := exists_request hcall
  refine ⟨request, hrequest, fun script octets hscript hsaid => ?_⟩
  have hhandled := errand.handled client net
  rw [Handled, hrequest, hscript] at hhandled
  obtain ⟨c, answer, hrun, hexchange⟩ := hhandled
  rw [sent_of_isCall hcall] at hexchange
  rw [hrun, (hexchange.plain hplain).2, hsaid]
  exact decided_worth hcall client octets client.options.requestTimeout

/-! ### A listing in two chunks -/

/-- What a daemon sends: two tasks, one with an entry of progress at no time, the other updated at
none, and a line after them. -/
def listing : List (List UInt8) :=
  [Utf8.encode "\x7b\"success\":true,\"tasks\":[\x7b\"id\":\"a\",\"progress\":[\x7b\"timestamp\":",
    Utf8.encode "\"soon\"\x7d]\x7d,\x7b\"updated_at\":\"soon\",\"completed_at\":\"?\"\x7d]\x7d\r\n",
    Utf8.encode "\x7b"]

/-- The first spoiled time of the listing is all that is told of it. -/
theorem outcome_of_listing :
    let net : Network := ⟨[{
      endpoint := .unix "daemon.sock", scripts := [.read :: listing.map .write] }]⟩
    (list.IsCall ∧ Client.neighbour.endpoint.isNetwork = false) ∧
      (list.run Client.neighbour net).1 = .error (.timestamp .updatedAt) := by
  intro net
  refine ⟨⟨trivial, rfl⟩, ?_⟩
  obtain ⟨request, -, hdecided⟩ :=
    outcome_exact (show list.IsCall from trivial) Client.neighbour (.inl rfl) net
  have decided := hdecided _ _ rfl (Script.said_writes listing request)
  let first : Wire.Task := { id := "a", progress := [{ timestamp := "soon" }] }
  let second : Wire.Task := { updatedAt := "soon", completedAt := "?" }
  let line :=
    "\x7b\"success\":true,\"tasks\":[\x7b\"id\":\"a\"," ++
      "\"progress\":[\x7b\"timestamp\":\"soon\"\x7d]\x7d," ++
      "\x7b\"updated_at\":\"soon\",\"completed_at\":\"?\"\x7d]\x7d"
  have hline : Line.first? (list.maxLine Client.neighbour.options) listing.flatten =
      some (.text line) := by decide +kernel
  have hresponse : Wire.Response.ofText? (Text.trim line) =
      some { success := true, tasks := [first, second] } := by decide +kernel
  have granted := (decided.judged hline (by decide +kernel)).granted hresponse rfl
  have hraws : [first, second] = [first] ++ second :: [] := rfl
  have hfirst : ∀ r ∈ [first], r.spoiled? = none := by decide +kernel
  exact Task.AllReceived.spoiled granted hraws hfirst (by decide +kernel)

end Errand

end TaskWatch
