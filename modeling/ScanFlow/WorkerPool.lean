import ScanFlow.Orchestrator.Process
import ScanFlow.System

/-!
The pool of workers that takes completion messages from the broker.

The pool wakes when the broker's signal is raised, and otherwise from time to time. At
each wake it claims one message, if a worker is free. A message that is not valid is
acknowledged and dropped. Any other is handed to a handler; a handler that fails in a way
that may pass hands the message back, as long as it has attempts left, and one that takes
too long counts as such a failure. Beside the workers, a reaper returns the messages of
claims that have become too old.

Time is counted in milliseconds from the start of the pool. A handler answers at once or
never, so that nothing happens between the moments at which the pool acts.
-/

namespace ScanFlow

/-- The settings of a pool. A reaping interval of zero means that there is no reaper. -/
structure PoolSettings where
  maxWorkers : Nat := 4
  pollMillis : Nat := 500
  visibilitySeconds : Nat := 300
  reapSeconds : Nat := 60
  maxAttempts : Nat := 3
  handlerSeconds : Nat := 120
  deriving DecidableEq, Repr

/-- The settings of a pool in an orchestrator with the given settings. -/
def PoolSettings.ofSettings (settings : Settings) : PoolSettings :=
  { maxWorkers := settings.consumerMaxWorkers
    pollMillis := settings.consumerPollIntervalMs
    visibilitySeconds := settings.queueVisibilityTimeoutSecs }

/-- The settings that a table in JSON gives, the others as they stand. -/
def PoolSettings.override? (settings : PoolSettings) : Json → Option PoolSettings :=
  Json.openRecord? do
    let number (name : String) (fallback : Nat) :=
      Json.defaulted name (Json.nat? Digits.maxWord64) fallback
    let maxWorkers ← number "max_workers" settings.maxWorkers
    let pollMillis ← number "poll_interval_ms" settings.pollMillis
    let visibilitySeconds ← number "visibility_timeout_secs" settings.visibilitySeconds
    let reapSeconds ← number "reap_interval_secs" settings.reapSeconds
    let maxAttempts ←
      Json.defaulted "max_attempts" (Json.nat? Digits.maxWord32) settings.maxAttempts
    let handlerSeconds ← number "handler_timeout_secs" settings.handlerSeconds
    return { maxWorkers, pollMillis, visibilitySeconds, reapSeconds, maxAttempts,
             handlerSeconds }

/-- What becomes of a message after its handler. -/
inductive Settlement where
  | ack
  | nack
  deriving DecidableEq, Repr

/-- A failure that may pass hands the message back while it has attempts left; everything
else is final. -/
def Settlement.ofOutcome (outcome : Except ServiceError Unit) (attempts maxAttempts : Nat) :
    Settlement :=
  match outcome with
  | .ok () => .ack
  | .error e => if e.isRecoverable && attempts < maxAttempts then .nack else .ack

/-- Carries a settlement out. -/
def Broker.settle (broker : Broker) (id : Uuid) : Settlement → Except BrokerError Unit × Broker
  | .ack => broker.ack id
  | .nack => broker.nack id

/-- How a handler takes a message. -/
inductive Handling where
  | answers (program : Program Unit)
  | hangs

/-- A handler may treat each call differently; calls are numbered from zero. -/
abbrev Handler := Nat → Completion → Handling

/-- The handler that processes every message. -/
def Orchestrator.handler (o : Orchestrator) : Handler :=
  fun _ message => .answers (o.process message)

/-- What a call of the handler came to; none is one that never answered. -/
structure HandlerEvent where
  queue : Queue
  workflowId : Uuid
  outcome : Option (Except ServiceError Unit)

/-- A worker whose handler has not answered, and when it is given up. -/
structure BusyWorker where
  delivery : Delivery
  deadline : Nat

/-- A pool at work. Busy workers stand in the order in which they became busy, which is
also that of their deadlines, since all have the same time. Events stand in reverse. -/
structure WorkerPool where
  settings : PoolSettings
  handler : Handler
  time : Nat
  nextPoll : Nat
  nextReap : Nat
  busy : List BusyWorker
  events : List HandlerEvent
  system : System

namespace WorkerPool

/-- What a handler that takes too long is said to have failed with. -/
def timeoutError (seconds : Nat) : ServiceError :=
  .internal s!"Completion handler timed out after {seconds}s"

/-- The time between two polls. -/
def pollInterval (pool : WorkerPool) : Nat := max 1 pool.settings.pollMillis

def reapInterval (pool : WorkerPool) : Nat := pool.settings.reapSeconds * 1000

def hasFreeWorker (pool : WorkerPool) : Bool :=
  pool.busy.length < max 1 pool.settings.maxWorkers

/-- Whether a completion message is ready. -/
def hasReady (pool : WorkerPool) : Bool :=
  pool.system.broker.ready.any fun delivery => delivery.queue.isCompletion

/-- Whether nothing is left to do, by the workers of this pool or by others. -/
def isIdle (pool : WorkerPool) : Bool :=
  !pool.hasReady && pool.system.broker.inFlight = 0

/-- Whether the reaper would find a claim that is too old. -/
def hasStale (pool : WorkerPool) (env : Environment) : Bool :=
  pool.settings.reapSeconds != 0 &&
    pool.system.broker.claimed.values.any
      (Broker.isStale env.now pool.settings.visibilitySeconds)

def withBroker (pool : WorkerPool) (broker : Broker) : WorkerPool :=
  { pool with system := { pool.system with broker } }

/-- Settles a delivery; that it is no longer claimed is of no account. -/
def settle (pool : WorkerPool) (delivery : Delivery) (outcome : Except ServiceError Unit) :
    WorkerPool :=
  let settlement := Settlement.ofOutcome outcome delivery.attempts pool.settings.maxAttempts
  pool.withBroker (pool.system.broker.settle delivery.id settlement).2

/-- Hands a claimed message to the handler. -/
def handle (pool : WorkerPool) (env : Environment) (delivery : Delivery) : WorkerPool :=
  match Completion.parse delivery.queue delivery.payload with
  | .error _ => pool.withBroker (pool.system.broker.ack delivery.id).2
  | .ok message =>
    let event (outcome : Option (Except ServiceError Unit)) : HandlerEvent :=
      { queue := delivery.queue, workflowId := message.workflowId, outcome }
    match pool.handler pool.events.length message with
    | .hangs =>
      { pool with
        busy := pool.busy ++ [⟨delivery, pool.time + pool.settings.handlerSeconds * 1000⟩]
        events := event none :: pool.events }
    | .answers program =>
      let (outcome, system) := program.run env pool.system
      { pool with system, events := event (some outcome) :: pool.events }.settle delivery outcome

/-- Returns the messages of claims that are too old. -/
def reap (pool : WorkerPool) (env : Environment) : WorkerPool :=
  if pool.settings.reapSeconds = 0 then pool
  else
    pool.withBroker (pool.system.broker.requeueStale env.now pool.settings.visibilitySeconds
      pool.settings.maxAttempts).2

/-- Claims a message, if a worker is free. Polling starts anew. -/
def claim (pool : WorkerPool) (env : Environment) : Option Delivery × WorkerPool :=
  let pool := { pool with nextPoll := pool.time + pool.pollInterval }
  if pool.hasFreeWorker then
    let (delivery, broker) := pool.system.broker.claim env.now Queue.completions
    (delivery, pool.withBroker broker)
  else (none, pool)

/-- Wakes up: claims a message and handles it. -/
def wake (pool : WorkerPool) (env : Environment) : WorkerPool :=
  match pool.claim env with
  | (some delivery, pool) => pool.handle env delivery
  | (none, pool) => pool

/-- Takes the signal of the broker, which tells whether it was raised. -/
def takeSignal (pool : WorkerPool) : Bool × WorkerPool :=
  (pool.system.broker.signalled,
    pool.withBroker { pool.system.broker with signalled := false })

/-- The first moment of a regular series that is not before a time. -/
def catchUp (due interval time : Nat) : Nat :=
  if time ≤ due then due else due + (time - due + interval - 1) / interval * interval

/-- Gives up the worker that has been busy longest. -/
def giveUp (pool : WorkerPool) (worker : BusyWorker) : WorkerPool :=
  { pool with time := max pool.time worker.deadline, busy := pool.busy.tail }.settle
    worker.delivery (.error (timeoutError pool.settings.handlerSeconds))

/-- What the pool does next when the signal is down. -/
inductive Action where
  | giveUp (worker : BusyWorker)
  | reap (time : Nat)
  | poll (time : Nat)

/-- The moment of an action, and its rank among actions of one moment. -/
def Action.order : Action → Nat × Nat
  | giveUp worker => (worker.deadline, 0)
  | reap time => (time, 1)
  | poll time => (time, 2)

def Action.before (a b : Action) : Bool :=
  a.order.1 < b.order.1 || (a.order.1 = b.order.1 && a.order.2 ≤ b.order.2)

/-- The actions that would change anything. -/
def actions (pool : WorkerPool) (env : Environment) : List Action :=
  pool.busy.head?.toList.map .giveUp ++
    (if pool.hasStale env then [.reap (catchUp pool.nextReap pool.reapInterval pool.time)]
      else []) ++
    (if pool.hasFreeWorker && pool.hasReady then
      [.poll (catchUp pool.nextPoll pool.pollInterval pool.time)] else [])

/-- The earliest of the actions. -/
def firstAction? (actions : List Action) : Option Action :=
  actions.foldl (fun first action =>
    if first.any fun other => other.before action then first else some action) none

/-- Acts once. There is no next pool if nothing would ever change. -/
def step? (pool : WorkerPool) (env : Environment) : Option WorkerPool :=
  match pool.takeSignal with
  | (true, pool) => some (pool.wake env)
  | (false, pool) =>
    (firstAction? (pool.actions env)).map fun action =>
      match action with
      | .giveUp worker => pool.giveUp worker
      | .reap time => { pool with time, nextReap := time + pool.reapInterval }.reap env
      | .poll time => { pool with time }.wake env

/-- Works until nothing is left to do, for at most so many steps. -/
def work (env : Environment) : Nat → WorkerPool → WorkerPool
  | 0, pool => pool
  | fuel + 1, pool =>
    if pool.isIdle then pool
    else
      match pool.step? env with
      | some next => work env fuel next
      | none => pool

/-- Starts a pool. If the signal is up, a first message is claimed before the reaper runs
for the first time, and handled after that. -/
def start (settings : PoolSettings) (handler : Handler) (env : Environment)
    (system : System) : WorkerPool :=
  let pool : WorkerPool :=
    { settings, handler
      time := 0
      nextPoll := max 1 settings.pollMillis
      nextReap := settings.reapSeconds * 1000
      busy := []
      events := []
      system }
  match pool.takeSignal with
  | (true, pool) =>
    match pool.claim env with
    | (some delivery, pool) => (pool.reap env).handle env delivery
    | (none, pool) => pool.reap env
  | (false, pool) => pool.reap env

/-- The calls of the handler, in their order. -/
def history (pool : WorkerPool) : List HandlerEvent := pool.events.reverse

end WorkerPool

end ScanFlow
