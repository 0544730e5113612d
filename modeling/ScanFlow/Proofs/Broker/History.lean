import Mathlib.Data.List.Perm.Subperm
import ScanFlow.Broker

/-!
The history of a broker: the calls to it in their order, with what each has found or answered.

A call is one step of the broker, and a history leads from the empty broker to what its calls
make of it. Identifiers of messages are drawn at random, so a history publishes none of them
twice.
-/

namespace ScanFlow

/-- A call to the broker. A claim tells which message it has handed out, the reaper which claimed
messages it has taken for stale, and a drain which messages it has taken from the line. -/
inductive BrokerEvent where
  | published (id : Uuid) (queue : Queue) (payload : Json)
  | claimed (queues : List Queue) (found : Option Delivery)
  | acknowledged (id : Uuid) (outcome : Except BrokerError Unit)
  | handedBack (id : Uuid) (outcome : Except BrokerError Unit)
  | reaped (maxAttempts : Nat) (stale : List Delivery)
  | drained (queue : Queue) (taken : List Delivery)
  | woken

namespace BrokerEvent

def publishes (id : Uuid) : BrokerEvent → Bool
  | published new _ _ => new = id
  | _ => false

def claims (id : Uuid) : BrokerEvent → Bool
  | claimed _ found => found.any fun delivery => delivery.id = id
  | _ => false

/-- Whether the call removes the message for good: it acknowledges the message, empties its
queue, or finds it stale and without attempts left. -/
def removes (id : Uuid) : BrokerEvent → Bool
  | acknowledged acked (.ok ()) => acked = id
  | reaped maxAttempts stale =>
    stale.any fun delivery => delivery.id = id && maxAttempts ≤ delivery.attempts
  | drained queue taken => taken.any fun delivery => delivery.id = id && delivery.queue = queue
  | _ => false

def deliveries : BrokerEvent → List Delivery
  | claimed _ found => found.toList
  | reaped _ stale => stale
  | drained _ taken => taken
  | _ => []

theorem claims_iff {id : Uuid} {event : BrokerEvent} :
    event.claims id = true ↔
      ∃ queues delivery, event = .claimed queues (some delivery) ∧ delivery.id = id := by
  constructor
  · intro h
    match event, h with
    | .claimed queues (some delivery), h => exact ⟨queues, delivery, rfl, by simpa [claims] using h⟩
  · rintro ⟨queues, delivery, rfl, rfl⟩
    simp [claims]

def Fresh (history : List BrokerEvent) (event : BrokerEvent) : Prop :=
  ∀ id, event.publishes id = true → history.countP (publishes id) = 0

end BrokerEvent

/-- The message as the history has it: as it was published, with an attempt for each claim. -/
structure Delivery.Recorded (history : List BrokerEvent) (delivery : Delivery) : Prop where
  published : .published delivery.id delivery.queue delivery.payload ∈ history
  attempts : delivery.attempts = history.countP (BrokerEvent.claims delivery.id)

def Delivery.again (delivery : Delivery) : Delivery :=
  { delivery with attempts := delivery.attempts + 1 }

namespace Broker

def underway (broker : Broker) : List Delivery := broker.claimed.values.map Claim.delivery

def stale (broker : Broker) (now : Timestamp) (seconds : Nat) : List Delivery :=
  (broker.claimed.values.filter (isStale now seconds)).map Claim.delivery

def reap (broker : Broker) (stale : List Delivery) (maxAttempts : Nat) : Broker :=
  { broker with
    ready := broker.ready ++ stale.filter fun delivery => delivery.attempts < maxAttempts
    claimed := broker.claimed.eraseAll (stale.map Delivery.id) }

def line (broker : Broker) (queue : Queue) : List Delivery :=
  broker.ready.filter fun delivery => delivery.queue = queue

/-- What one call makes of the broker. The reaper meets the claims in no particular order, and
looks at the clock for each of them; so it is free to take any of them for stale. -/
inductive Step (broker : Broker) : BrokerEvent → Broker → Prop
  | publish (id queue payload) :
      Step broker (.published id queue payload) (broker.publish id queue payload)
  | claim (now queues) :
      Step broker (.claimed queues (broker.claim now queues).1) (broker.claim now queues).2
  | ack (id) : Step broker (.acknowledged id (broker.ack id).1) (broker.ack id).2
  | nack (id) : Step broker (.handedBack id (broker.nack id).1) (broker.nack id).2
  | reap {stale : List Delivery} (maxAttempts) (found : stale.Subperm broker.underway) :
      Step broker (.reaped maxAttempts stale) (broker.reap stale maxAttempts)
  | drain (queue) : Step broker (.drained queue (broker.line queue)) (broker.drain queue).2
  | wake : Step broker .woken { broker with signalled := false }

inductive Ran : List BrokerEvent → Broker → Prop
  | start : Ran [] empty
  | step {history : List BrokerEvent} {broker next : Broker} {event : BrokerEvent}
      (ran : Ran history broker) (fresh : event.Fresh history) (step : broker.Step event next) :
      Ran (history ++ [event]) next

variable {broker : Broker}

theorem stale_subperm (broker : Broker) (now : Timestamp) (seconds : Nat) :
    (broker.stale now seconds).Subperm broker.underway :=
  (List.filter_sublist.map Claim.delivery).subperm

/-- A call of the reaper with a clock that stands still takes the old claims for stale. -/
theorem requeueStale_step (broker : Broker) (now : Timestamp) (seconds maxAttempts : Nat) :
    broker.Step (.reaped maxAttempts (broker.stale now seconds))
      (broker.requeueStale now seconds maxAttempts).2 :=
  .reap maxAttempts (broker.stale_subperm now seconds)

/-! ### What a claim finds -/

theorem takeFirst?_eq_none {queues : List Queue} {ready : List Delivery}
    (h : takeFirst? queues ready = none) : ∀ message ∈ ready, message.queue ∉ queues := by
  induction ready with
  | nil => nofun
  | cons head rest ih =>
    rw [takeFirst?] at h
    split at h
    · cases h
    · rename_i hhead
      rw [Option.map_eq_none_iff] at h
      intro message member
      rcases List.mem_cons.mp member with rfl | hmem
      · simpa using hhead
      · exact ih h message hmem

theorem takeFirst?_eq_some {queues : List Queue} {ready others : List Delivery}
    {found : Delivery} (h : takeFirst? queues ready = some (found, others)) :
    ∃ before after, ready = before ++ found :: after ∧ others = before ++ after ∧
      found.queue ∈ queues ∧ ∀ message ∈ before, message.queue ∉ queues := by
  induction ready generalizing others with
  | nil => cases h
  | cons head rest ih =>
    rw [takeFirst?] at h
    split at h
    · rename_i hhead
      cases h
      exact ⟨[], rest, rfl, rfl, by simpa using hhead, nofun⟩
    · rename_i hhead
      obtain ⟨⟨found', others'⟩, hrest, heq⟩ := Option.map_eq_some_iff.mp h
      cases heq
      obtain ⟨before, after, rfl, rfl, hasked, hbefore⟩ := ih hrest
      refine ⟨head :: before, after, rfl, rfl, hasked, ?_⟩
      intro message member
      rcases List.mem_cons.mp member with rfl | hmem
      · simpa using hhead
      · exact hbefore message hmem

/-- A claim finds nothing, or takes the first message of the asked queues out of the line. -/
inductive ClaimsFirst (broker : Broker) (now : Timestamp) (queues : List Queue) :
    Option Delivery × Broker → Prop
  | nothing (unasked : ∀ message ∈ broker.ready, message.queue ∉ queues) :
      ClaimsFirst broker now queues (none, broker)
  | first {before after : List Delivery} {message : Delivery}
      (line : broker.ready = before ++ message :: after) (asked : message.queue ∈ queues)
      (unasked : ∀ earlier ∈ before, earlier.queue ∉ queues) :
      ClaimsFirst broker now queues
        (some message.again,
          { broker with
            ready := before ++ after
            claimed := broker.claimed.insert message.id ⟨message.again, now⟩ })

theorem claim_first (broker : Broker) (now : Timestamp) (queues : List Queue) :
    broker.ClaimsFirst now queues (broker.claim now queues) := by
  unfold claim
  split
  · rename_i hnone
    exact .nothing (takeFirst?_eq_none hnone)
  · rename_i found others hsome
    obtain ⟨before, after, hline, rfl, hasked, hbefore⟩ := takeFirst?_eq_some hsome
    exact .first hline hasked hbefore

/-- A drain answers with the payloads of its queue in the order of the line, leaves nothing on that
queue, and spares the messages of other queues and those that are claimed. -/
structure Empties (broker : Broker) (queue : Queue) (outcome : List Json × Broker) : Prop where
  answer : outcome.1 = (broker.line queue).map Delivery.payload
  emptied : outcome.2.line queue = []
  others : ∀ other, other ≠ queue → outcome.2.line other = broker.line other
  claimed : outcome.2.claimed = broker.claimed

theorem drain_empties (broker : Broker) (queue : Queue) :
    broker.Empties queue (broker.drain queue) where
  answer := rfl
  emptied := by simp [line, drain, List.filter_filter]
  others := by
    intro other hother
    simp only [line, drain, List.filter_filter]
    refine List.filter_congr fun delivery _ => ?_
    by_cases hqueue : delivery.queue = other
    · simp [hqueue, hother]
    · simp [hqueue]
  claimed := rfl

theorem ack_refused {id : Uuid} {error : BrokerError} (h : (broker.ack id).1 = .error error) :
    (broker.ack id).2 = broker := by
  unfold ack at h ⊢
  split
  · rename_i hclaimed
    simp [hclaimed] at h
  · rfl

theorem nack_refused {id : Uuid} {error : BrokerError} (h : (broker.nack id).1 = .error error) :
    (broker.nack id).2 = broker := by
  unfold nack at h ⊢
  split
  · rfl
  · rename_i claim hclaimed
    simp [hclaimed] at h

end Broker

end ScanFlow
