import ScanFlow.Blob.Service
import ScanFlow.Broker
import ScanFlow.Message.EngineRequest
import ScanFlow.Store.Operation

/-!
Services as programs over atomic calls.

A service reads the clock, takes numbers for new records, and calls the store, the broker
and the blob storage. Each call is atomic, and nothing else in a service depends on the
outside. A program is such a service as data: the next call, and how the program goes on
with every answer to it. Programs can therefore be run to the end, cut after any call,
or interleaved with others call by call.
-/

namespace ScanFlow

/-- One atomic call, by the type of its answer. -/
inductive Call : Type → Type 1 where
  | clock : Call Timestamp
  | reserve (count : Nat) : Call Nat
  | store {α : Type} (operation : Store.Operation α) : Call α
  | publish (queue : Queue) (payload : Json) : Call (Except BrokerError Uuid)
  | blobExists (key : String) : Call (Except BlobError Bool)
  | blobUrl (key : String) (lifetime : Nat) : Call (Except BlobError String)

/-- A program: an outcome, or a call and what follows each answer. -/
inductive Program (α : Type) : Type 1 where
  | done (outcome : Except ServiceError α)
  | call {β : Type} (request : Call β) (next : β → Program α)

namespace Program

/-- Runs one program after another, unless the first one fails. -/
def bind {α β : Type} (program : Program α) (next : α → Program β) : Program β :=
  match program with
  | done (.ok a) => next a
  | done (.error e) => done (.error e)
  | call request rest => call request fun answer => (rest answer).bind next

instance : Monad Program where
  pure a := done (.ok a)
  bind := bind

/-- Stops with an error. -/
def fail {α : Type} (e : ServiceError) : Program α := done (.error e)

/-- Goes on with the value, or stops with the error. -/
def ofExcept {α : Type} (outcome : Except ServiceError α) : Program α := done outcome

/-- A program that never fails, and answers with the outcome of another one. -/
def attempt {α : Type} : Program α → Program (Except ServiceError α)
  | done outcome => done (.ok outcome)
  | call request rest => call request fun answer => (rest answer).attempt

/-- A single call. -/
def ask {α : Type} (request : Call α) : Program α := call request fun answer => pure answer

/-! ### Calls with the errors of services -/

def clock : Program Timestamp := ask .clock

/-- The first of a run of unused numbers. -/
def reserve (count : Nat) : Program Nat := ask (.reserve count)

/-- The identifier of a new record. -/
def newId : Program Uuid := do
  let n ← reserve 1
  return Uuid.generated n

/-- An operation of the store that is never refused. -/
def store {α : Type} (operation : Store.Operation α) : Program α := ask (.store operation)

/-- An operation of the store that may be refused. -/
def storeOr {α : Type} (operation : Store.Operation (Except StoreError α)) : Program α := do
  match ← ask (.store operation) with
  | .ok a => return a
  | .error e => fail (.ofCauses [e.message])

/-- A record that must be there. -/
def require {α : Type} (operation : Store.Operation (Option α)) (missing : ServiceError) :
    Program α := do
  match ← store operation with
  | some a => return a
  | none => fail missing

/-- Whether a key holds a blob. -/
def blobExists (key : String) : Program Bool := do
  match ← ask (.blobExists key) with
  | .ok present => return present
  | .error e => fail (.ofBlobError e)

/-- A temporary URL of a blob. -/
def blobUrl (key : String) (lifetime : Nat) : Program String := do
  match ← ask (.blobUrl key lifetime) with
  | .ok url => return url
  | .error e => fail (.ofBlobError e)

/-- Publishes a request to its engine. -/
def sendRequest (request : EngineRequest) : Program Uuid := do
  match ← ask (.publish request.queue request.toJson) with
  | .ok id => return id
  | .error e =>
    let causes := String.intercalate ": " e.causes
    fail (.broker s!"Failed to publish to {request.queue.wire}: {causes}")

end Program

end ScanFlow
