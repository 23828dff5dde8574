import TaskWatch.Channel.Basic
import TaskWatch.Client.Connection

/-!
# Watching a task of a daemon

A watch is a request whose answer goes on: the first line acknowledges the watch, and each line after
it may carry an event. A `Feed` is the producer of such a watch. It takes the lines one by one and
delivers their events to a channel; blank lines, lines that are too long and lines that cannot be
read are passed over. It stops after a terminal event, when the daemon has closed, or when the watch
is cancelled, and closes the channel then.

* `Client.openWatch`: the watch from the request to the acknowledgement;
* `Feed.step`, `Feed.run`: one line, and all that can be done at the moment.
-/

namespace TaskWatch

/-- The producer of a watch. -/
structure Feed where
  channel : Channel
  /-- The lines that are not handled yet. -/
  lines : List Line := []
  /-- Whether no more lines come. -/
  ended : Bool := true
  /-- A terminal event that waits for room. -/
  held : Option Event := none
  deriving DecidableEq, Repr

namespace Feed

/-- The event of a line; none for a line that is passed over. -/
def eventOf? : Line → Option Event
  | .tooLong => none
  | .text s => (Text.nonBlank? s).bind fun s => (Event.ofLine s).toOption

/-- Stops the producer, which cancels the token of the watch. -/
def stop (feed : Feed) (tokens : Tokens) : Feed × Tokens :=
  ({ feed with channel := feed.channel.close.dropSink, held := none },
    tokens.cancel feed.channel.token)

/-- Delivers an event. A terminal event that has to wait is held. -/
def deliver (feed : Feed) (tokens : Tokens) (event : Event) : Feed × Tokens :=
  match feed.channel.deliver tokens event with
  | (.waiting, _) => ({ feed with held := some event }, tokens)
  | (.refused, _) => feed.stop tokens
  | (_, channel) =>
    let feed := { feed with channel := channel }
    if event.isTerminal then feed.stop tokens else (feed, tokens)

/-- Goes on with what is held, or with the next line. -/
def step (feed : Feed) (tokens : Tokens) : Feed × Tokens :=
  if !feed.channel.hasSink then (feed, tokens)
  else if tokens.isCancelled feed.channel.token then feed.stop tokens
  else match feed.held, feed.lines with
    | some event, _ => feed.deliver tokens event
    | none, [] => if feed.ended then feed.stop tokens else (feed, tokens)
    | none, line :: rest =>
      let feed := { feed with lines := rest }
      match eventOf? line with
      | some event => feed.deliver tokens event
      | none => (feed, tokens)

/-- A number of steps. -/
def steps : Nat → Feed → Tokens → Feed × Tokens
  | 0, feed, tokens => (feed, tokens)
  | n + 1, feed, tokens =>
    let (feed, tokens) := feed.step tokens
    steps n feed tokens

/-- Goes on as far as possible: one step for each line, and one for the end. -/
def run (feed : Feed) (tokens : Tokens) : Feed × Tokens :=
  steps (feed.lines.length + 1) feed tokens

/-- Receives one event, after the producer has gone on as far as possible. -/
def receive (feed : Feed) (tokens : Tokens) : Reception × Feed × Tokens :=
  let (feed, tokens) := feed.run tokens
  let (reception, channel) := feed.channel.receive
  (reception, { feed with channel := channel }, tokens)

/-- Takes the events that are queued, after the producer has gone on as far as possible. -/
def takeQueued (feed : Feed) (tokens : Tokens) : List Event × Feed × Tokens :=
  let (feed, tokens) := feed.run tokens
  (feed.channel.queue, { feed with channel := { feed.channel with queue := [] } }, tokens)

/-- Takes all events that have come. What is held finds room once the queue was taken. -/
def takeAll (feed : Feed) (tokens : Tokens) : List Event × Feed × Tokens :=
  let (first, feed, tokens) := feed.takeQueued tokens
  let (later, feed, tokens) := feed.takeQueued tokens
  (first ++ later, feed, tokens)

end Feed

namespace Client

/-- What a line says that should acknowledge a watch. -/
def acknowledged (line : String) : Except ClientError Unit :=
  match Wire.Response.ofText? line with
  | none => .error (.decode .streamAck)
  | some response =>
    if response.success then .ok () else .error (.reported response.error "stream rejected")

/-- Asks for a watch and waits for the acknowledgement. What follows it is left to be read. -/
def requestWatch (client : Client) (taskId : String) : Dialogue (List Line × Bool) := fun c =>
  let request : Wire.Request := { kind := .toolWatch, taskId := taskId }
  match Conversation.ask request client.options.requestTimeout c with
  | (.ok line, c) => ((fun _ => (c.reader.lines, c.reader.ended)) <$> acknowledged line, c)
  | (.error e, c) => (.error e, c)

/-- Opens a watch that `token` cancels. A watch that is cancelled already is not asked for. -/
def openWatch (client : Client) (taskId : String) (capacity : Nat) (token : Token)
    (tokens : Tokens) (net : Network) : Except ClientError Feed × Network :=
  match Text.nonBlank? taskId with
  | none => (.error (.invalidRequest .noTaskId), net)
  | some id =>
    if tokens.isCancelled token then (.error .cancelled, net)
    else
      let (opened, net) := client.withConnection client.options.maxStreamLineBytes
        (client.requestWatch id) net
      ((fun (lines, ended) => {
        channel := .new id capacity token
        lines := lines
        ended := ended }) <$> opened, net)

end Client

end TaskWatch
