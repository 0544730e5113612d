import ScanFlow.Program

/-!
The system that programs run on: a store, a broker and a supply of new numbers.

An environment says what a call meets from outside: the time, the blob storage, and which
queues cannot be reached. A call changes the system in one step; running a program makes
its calls one after another.

A system is kept in memory. Stores and brokers that live in a database are no part of the
library, and neither is what surrounds a system in a process: its log, its signals, and the
choice of the backends.
-/

namespace ScanFlow

/-- What the outside world is like during a call. A queue with an outage refuses every
message, with the causes of the outage. -/
structure Environment where
  now : Timestamp
  blobs : BlobService
  outage : Queue → Option (List String)

/-- The state of the orchestrator. Numbers from `nextNumber` on are unused. -/
structure System where
  store : Store
  broker : Broker
  nextNumber : Nat

namespace System

def empty : System := { store := .empty, broker := .empty, nextNumber := 0 }

instance : Inhabited System := ⟨empty⟩

/-- Publishes a message under a new identifier, unless the queue has an outage. -/
def publish (system : System) (env : Environment) (queue : Queue) (payload : Json) :
    Except BrokerError Uuid × System :=
  match env.outage queue with
  | some causes => (.error (.unreachable causes), system)
  | none =>
    let id := Uuid.generated system.nextNumber
    (.ok id,
      { system with
        broker := system.broker.publish id queue payload
        nextNumber := system.nextNumber + 1 })

end System

/-- Carries out one call. -/
def Call.perform {α : Type} (env : Environment) (call : Call α) (system : System) :
    α × System :=
  match call with
  | .clock => (env.now, system)
  | .reserve count => (system.nextNumber, { system with nextNumber := system.nextNumber + count })
  | .store operation =>
    let outcome := operation.perform env.now system.store
    (outcome.1, { system with store := outcome.2 })
  | .publish queue payload => system.publish env queue payload
  | .blobExists key => (env.blobs.holds key, system)
  | .blobUrl key lifetime => (env.blobs.url env.now key lifetime, system)

/-- Runs a program to its end, with nothing in between. -/
def Program.run {α : Type} (env : Environment) (program : Program α) (system : System) :
    Except ServiceError α × System :=
  match program with
  | .done outcome => (outcome, system)
  | .call request next =>
    let outcome := request.perform env system
    (next outcome.1).run env outcome.2

end ScanFlow
