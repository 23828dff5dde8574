import TaskWatch.Line.Reader

/-!
# Conversations with a daemon

A conversation is one connection, seen from both ends. The daemon follows a script: it reads lines,
writes octets, or holds the connection, and closes its end when the script is over. It goes on as
soon as it can, so all it has to say at some moment has been said: what the client cannot read then
will not come unless the client writes.

* `Conversation.start`: a connection on which the client has written nothing;
* `send`, `readLine`: the two things a client does with it.
-/

namespace TaskWatch

/-- What a daemon does in one go. -/
inductive PeerStep where
  /-- Reads one line. -/
  | read
  | write (octets : List UInt8)
  /-- Keeps the connection open until the client closes it. -/
  | hold
  deriving DecidableEq, Repr

/-- What a daemon does on one connection; it closes its end afterwards. -/
abbrev Script := List PeerStep

/-- One connection. -/
structure Conversation where
  /-- What the daemon has still to do. -/
  script : Script
  /-- What the client reads. -/
  reader : LineReader
  /-- All that the client has written. -/
  written : List UInt8 := []
  /-- What of it the daemon has not read yet. -/
  unread : List UInt8 := []
  /-- The lines that the daemon has read, each with its newline. -/
  received : List String := []
  deriving DecidableEq, Repr

namespace LineReader

/-- The reader after more octets have come. -/
def receive (r : LineReader) (octets : List UInt8) : LineReader :=
  { r with chunks := r.chunks ++ [octets] }

/-- The reader after the other end was closed. -/
def close (r : LineReader) : LineReader := { r with ended := true }

end LineReader

namespace Conversation

/-- Lets the daemon follow a script as far as it can. -/
def follow (c : Conversation) : Script → Conversation
  | [] => { c with script := [], reader := c.reader.close }
  | .write octets :: rest => follow { c with reader := c.reader.receive octets } rest
  | .hold :: rest => { c with script := .hold :: rest }
  | .read :: rest =>
    match Line.cut c.unread with
    | (line, some unread) =>
      follow { c with
        unread := unread
        received := c.received ++ [Utf8.decodeLossy (line ++ [Line.newline])] } rest
    | (_, none) => { c with script := .read :: rest }

/-- A new connection on which the client takes lines up to a limit. -/
def start (script : Script) (limit : Nat) : Conversation :=
  follow { script := [], reader := { limit := limit } } script

/-- The client writes. -/
def send (c : Conversation) (text : String) : Conversation :=
  let octets := Utf8.encode text
  follow { c with written := c.written ++ octets, unread := c.unread ++ octets } c.script

/-- The client reads a line. -/
def readLine (c : Conversation) : LineRead × Conversation :=
  let (read, reader) := c.reader.next
  (read, { c with reader := reader })

@[simp] theorem written_follow (c : Conversation) (script : Script) :
    (c.follow script).written = c.written := by
  induction script generalizing c with
  | nil => rfl
  | cons step rest ih =>
    cases step with
    | write octets => simp [follow, ih]
    | hold => rfl
    | read =>
      rw [follow]
      split
      · simp [ih]
      · rfl

@[simp] theorem written_start (script : Script) (limit : Nat) :
    (start script limit).written = [] := by
  simp [start]

@[simp] theorem written_send (c : Conversation) (text : String) :
    (c.send text).written = c.written ++ Utf8.encode text := by
  simp [send]

@[simp] theorem written_readLine (c : Conversation) : c.readLine.2.written = c.written := rfl

end Conversation

end TaskWatch
