import TaskWatch.Endpoint
import TaskWatch.Network.Conversation

/-!
# The network

Daemons listen at endpoints, and each follows one script per connection: the first connection the
first script, and so on; when there are no more scripts the last one is followed again. The network
keeps every conversation that was ever started, so that one can tell what the daemons have seen.
-/

namespace TaskWatch

/-- A daemon that listens. -/
structure Host where
  endpoint : Endpoint
  scripts : List Script := []
  /-- The connections made so far, oldest first. -/
  conversations : List Conversation := []
  deriving DecidableEq, Repr

/-- The daemons that can be reached. -/
structure Network where
  hosts : List Host := []
  deriving DecidableEq, Repr

/-- Which conversation of the network a connection is. -/
structure Link where
  host : Nat
  conversation : Nat
  deriving DecidableEq, Repr

namespace Host

/-- What the daemon does on the next connection. -/
def nextScript (h : Host) : Script :=
  (h.scripts[h.conversations.length]?.or h.scripts.getLast?).getD []

/-- The lines that the daemon has read on each connection. -/
def received (h : Host) : List (List String) := h.conversations.map (·.received)

end Host

namespace Network

/-- Connects to an endpoint; none if nothing listens there. -/
def connect (net : Network) (endpoint : Endpoint) (limit : Nat) :
    Option (Link × Conversation × Network) := do
  let i ← net.hosts.findIdx? (·.endpoint == endpoint)
  let host ← net.hosts[i]?
  let conversation := Conversation.start host.nextScript limit
  let joined := { host with conversations := host.conversations ++ [conversation] }
  return (⟨i, host.conversations.length⟩, conversation, ⟨net.hosts.set i joined⟩)

/-- The network after a conversation has gone on. -/
def update (net : Network) (link : Link) (conversation : Conversation) : Network :=
  ⟨net.hosts.modify link.host fun host =>
    { host with conversations := host.conversations.set link.conversation conversation }⟩

end Network

end TaskWatch
