import TaskWatch.Broker.Basic

/-!
# A broker in use

A `BrokerSession` is a broker together with the publications made so far, each finished or under
way. After every action the publications under way go on as far as they can.
-/

namespace TaskWatch

/-- How far a publication has come: under way, or finished with a number of streams. -/
abbrev PublicationState := Publication ⊕ Nat

/-- A broker and the publications made so far. -/
structure BrokerSession where
  broker : Broker
  publications : List PublicationState := []
  deriving DecidableEq

namespace BrokerSession

/-- What is done with a broker. -/
inductive Action where
  /-- Opens a watch, whose token may be cancelled beforehand. -/
  | watch (taskId : String) (precancelled : Bool)
  | publish (taskId : String) (event : Event)
  | receive (stream : Nat)
  | cancel (stream : Nat)
  | drop (stream : Nat)
  | close (taskId : String)
  | reject (taskId message : String)

/-- What an action gives back. -/
inductive Answer where
  /-- The number of a stream. -/
  | opened (stream : Nat)
  | failed (error : ClientError)
  /-- The number of a publication. -/
  | publication (number : Nat)
  | reception (r : Reception)
  | flag (b : Bool)
  | done
  /-- There is no such stream any more. -/
  | missing

/-- A session with a new broker. -/
def new (capacity : Nat) : BrokerSession := { broker := .new capacity }

/-- The immediate effect of an action. -/
def act (s : BrokerSession) : Action → Answer × BrokerSession
  | .watch taskId precancelled =>
    let token := s.broker.tokens.next
    let broker := { s.broker with tokens := s.broker.tokens.issue }
    let broker := if precancelled then broker.cancel token else broker
    match broker.watch taskId token with
    | (.ok stream, broker) => (.opened stream, { s with broker := broker })
    | (.error e, broker) => (.failed e, { s with broker := broker })
  | .publish taskId event =>
    let (publication, broker) := s.broker.publish taskId event
    (.publication s.publications.length,
      { s with broker := broker, publications := s.publications ++ [.inl publication] })
  | .receive stream =>
    match s.broker.receive stream with
    | some (reception, broker) => (.reception reception, { s with broker := broker })
    | none => (.missing, s)
  | .cancel stream =>
    match s.broker.stream? stream with
    | some ch =>
      if ch.hasStream then (.done, { s with broker := s.broker.cancel ch.token }) else (.missing, s)
    | none => (.missing, s)
  | .drop stream =>
    match s.broker.stream? stream with
    | some ch => (.flag ch.hasStream, { s with broker := s.broker.dropStream stream })
    | none => (.missing, s)
  | .close taskId => (.done, { s with broker := s.broker.close taskId })
  | .reject taskId message => (.done, { s with broker := s.broker.reject taskId message })

/-- Lets publications go on as far as they can. -/
def advanceAll (broker : Broker) : List PublicationState → List PublicationState × Broker
  | [] => ([], broker)
  | .inr count :: rest =>
    let (rest, broker) := advanceAll broker rest
    (.inr count :: rest, broker)
  | .inl publication :: rest =>
    let (state, broker) := broker.resume publication
    let (rest, broker) := advanceAll broker rest
    (state :: rest, broker)

/-- An action and all that follows from it. -/
def step (s : BrokerSession) (action : Action) : Answer × BrokerSession :=
  let (answer, s) := s.act action
  let (publications, broker) := advanceAll s.broker s.publications
  (answer, ⟨broker, publications⟩)

end BrokerSession

end TaskWatch
