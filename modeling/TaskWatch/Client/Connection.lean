import TaskWatch.Client.Answer
import TaskWatch.Client.Basic
import TaskWatch.Network.Basic
import TaskWatch.Wire.Request

/-!
# What a client does on a connection

Over the network a client that has a token authenticates first: it writes one line with the token,
and goes on only if the daemon answers `OK`. A request is one line, and its answer is the next line
that comes.

* `Conversation.authenticate`, `Conversation.roundTrip`: the two exchanges;
* `Client.withConnection`: opens a connection for something to be done on it.
-/

namespace TaskWatch

/-- What is done on a connection: a result or a failure, and the conversation as it is then. -/
abbrev Dialogue (α : Type) := Conversation → Except ClientError α × Conversation

namespace Conversation

/-- Reads a line, waiting no longer than a limit; none when the daemon has closed its end. -/
def awaitLine (limit : Duration) : Dialogue (Option String) := fun c =>
  match c.readLine with
  | (.line (.text line), c) => (.ok (some line), c)
  | (.line .tooLong, c) => (.error (.lineTooLong c.reader.limit), c)
  | (.finished, c) => (.ok none, c)
  | (.waiting, c) => (.error (.timeout limit), c)

/-- The line that shows the token. -/
def authLine (token : String) : String := "AUTH " ++ token ++ "\n"

/-- What a daemon answers to a token that it accepts. -/
def authAccepted : String := "OK"

/-- Shows a token and waits until it is accepted. -/
def authenticate (token : String) (limit : Duration) : Dialogue Unit := fun c =>
  match awaitLine limit (c.send (authLine token)) with
  | (.ok (some reply), c) =>
    if Text.trim reply = authAccepted then (.ok (), c) else (.error (.auth (Text.trim reply)), c)
  | (.ok none, c) => (.error (.auth "connection closed during handshake"), c)
  | (.error e, c) => (.error e, c)

/-- Writes a request and reads the line of its answer, which must not be blank. -/
def ask (request : Wire.Request) (limit : Duration) : Dialogue String := fun c =>
  match awaitLine limit (c.send request.line) with
  | (.ok (some line), c) =>
    match Text.nonBlank? line with
    | some line => (.ok line, c)
    | none => (.error .noResponse, c)
  | (.ok none, c) => (.error .noResponse, c)
  | (.error e, c) => (.error e, c)

/-- Writes a request and reads its response. -/
def roundTrip (request : Wire.Request) (limit : Duration) : Dialogue Wire.Response := fun c =>
  match ask request limit c with
  | (.ok line, c) => (Wire.Response.ofLine line, c)
  | (.error e, c) => (.error e, c)

end Conversation

namespace Client

/-- The token that the client shows first; none on a local socket, and none if it is blank. -/
def shownToken? (client : Client) : Option String :=
  if client.endpoint.isNetwork then Text.nonBlank? client.authToken else none

/-- Shows the token if there is one to show. -/
def greet (client : Client) : Dialogue Unit := fun c =>
  match client.shownToken? with
  | some token => Conversation.authenticate token client.options.connectTimeout c
  | none => (.ok (), c)

/-- What is done on a connection once the token is accepted. -/
def converse {α : Type} (client : Client) (dialogue : Dialogue α) : Dialogue α := fun c =>
  match client.greet c with
  | (.ok (), c) => dialogue c
  | (.error e, c) => (.error e, c)

/-- Opens a connection with a limit for lines, and has something done on it. -/
def withConnection {α : Type} (client : Client) (maxLine : Nat) (dialogue : Dialogue α)
    (net : Network) : Except ClientError α × Network :=
  match net.connect client.endpoint maxLine with
  | none => (.error (.connect client.endpoint.address), net)
  | some (link, c, net) =>
    let (result, c) := client.converse dialogue c
    (result, net.update link c)

end Client

end TaskWatch
