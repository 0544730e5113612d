import ScanFlow.Queue
import ScanFlow.SortedMap

/-!
The broker: messages that wait on queues and messages that have been claimed.

A published message is ready until it is claimed, and claimed until it is acknowledged,
handed back, or found stale. Messages of all queues stand in one line; a claim takes the
first one whose queue is asked for. Each claim counts as an attempt, and a stale message
without attempts left is removed. The broker is the one in memory, and its messages are gone
with it.
-/

namespace ScanFlow

/-- A message, with the number of times it has been claimed. That number is a word of 32 bits:
it stays below `2 ^ 32`, as no message is claimed that often. -/
structure Delivery where
  id : Uuid
  queue : Queue
  payload : Json
  attempts : Nat
  deriving Repr

def Delivery.toJson (delivery : Delivery) : Json :=
  .object
    [("id", .ofUuid delivery.id), ("queue", delivery.queue.toJson),
      ("payload", delivery.payload), ("attempts", .ofNat delivery.attempts)]

/-- A claimed message and the moment of its claim. -/
structure Claim where
  delivery : Delivery
  since : Timestamp
  deriving Repr

/-- The messages of all queues. The signal is raised when a message is published or
handed back, and lowered by the worker that it wakes. -/
structure Broker where
  ready : List Delivery
  claimed : Table Claim
  signalled : Bool

/-- Why the broker refuses an operation. -/
inductive BrokerError where
  | notClaimed (id : Uuid)
  | unreachable (causes : List String)
  deriving DecidableEq, Repr

/-- The causes of a refusal, outermost first. -/
def BrokerError.causes : BrokerError → List String
  | notClaimed id => [s!"Delivery {id} is not claimed"]
  | unreachable causes => causes

namespace Broker

def empty : Broker := { ready := [], claimed := ∅, signalled := false }

instance : Inhabited Broker := ⟨empty⟩

/-- Puts a new message at the end of the line. -/
def publish (broker : Broker) (id : Uuid) (queue : Queue) (payload : Json) : Broker :=
  { broker with
    ready := broker.ready ++ [{ id, queue, payload, attempts := 0 }]
    signalled := true }

/-- Takes the first message with one of the queues out of the line. -/
def takeFirst? (queues : List Queue) : List Delivery → Option (Delivery × List Delivery)
  | [] => none
  | delivery :: rest =>
    if queues.contains delivery.queue then some (delivery, rest)
    else (takeFirst? queues rest).map fun (found, others) => (found, delivery :: others)

/-- Claims the first ready message of the given queues. -/
def claim (broker : Broker) (now : Timestamp) (queues : List Queue) :
    Option Delivery × Broker :=
  match takeFirst? queues broker.ready with
  | none => (none, broker)
  | some (found, ready) =>
    let delivery := { found with attempts := found.attempts + 1 }
    (some delivery,
      { broker with ready, claimed := broker.claimed.insert delivery.id ⟨delivery, now⟩ })

/-- Removes a claimed message for good. -/
def ack (broker : Broker) (id : Uuid) : Except BrokerError Unit × Broker :=
  if broker.claimed.contains id then
    (.ok (), { broker with claimed := broker.claimed.erase id })
  else (.error (.notClaimed id), broker)

/-- Hands a claimed message back: it is ready again, at the end of the line. -/
def nack (broker : Broker) (id : Uuid) : Except BrokerError Unit × Broker :=
  match broker.claimed.get? id with
  | none => (.error (.notClaimed id), broker)
  | some claim =>
    (.ok (),
      { ready := broker.ready ++ [claim.delivery]
        claimed := broker.claimed.erase id
        signalled := true })

/-- Whether a claim is at least so many seconds old. -/
def isStale (now : Timestamp) (seconds : Nat) (claim : Claim) : Bool :=
  seconds * 1000000000 ≤ claim.since.elapsed now

/-- Ends all claims of at least the given age. Their messages are ready again, but for
those without attempts left, which are removed. Answers with the number of the former. -/
def requeueStale (broker : Broker) (now : Timestamp) (seconds maxAttempts : Nat) :
    Nat × Broker :=
  let stale := (broker.claimed.values.filter (isStale now seconds)).map Claim.delivery
  let returned := stale.filter fun delivery => delivery.attempts < maxAttempts
  (returned.length,
    { broker with
      ready := broker.ready ++ returned
      claimed := broker.claimed.eraseAll (stale.map Delivery.id) })

/-- Removes the ready messages of a queue and answers with their payloads. -/
def drain (broker : Broker) (queue : Queue) : List Json × Broker :=
  let taken := broker.ready.filter fun delivery => delivery.queue = queue
  (taken.map Delivery.payload,
    { broker with ready := broker.ready.filter fun delivery => delivery.queue ≠ queue })

/-- The number of ready messages on a queue. -/
def length (broker : Broker) (queue : Queue) : Nat :=
  (broker.ready.filter fun delivery => delivery.queue = queue).length

/-- The number of claimed messages. -/
def inFlight (broker : Broker) : Nat := broker.claimed.size

end Broker

end ScanFlow
