import ScanFlow.Proofs.Broker.Attempts
import ScanFlow.Proofs.Lifecycle.Reach

/-!
A pool of workers is part of a crew.

Several pools may share a broker, with workers of other kinds and with services that publish.
Whatever a pool does goes on with the history of its crew: each step of the pool is a piece of
that history, and each call of its handler is a message that is handed over in it. So what holds
of all histories of crews holds of every pool, whatever its handler does with the messages.

A worker whose handler answers settles its message at once, while its claim is the last one of the
message. Only a worker that is given up may hand back what has been claimed again. In a pool whose
handler always answers no message is handed over more often than it has attempts.
-/

namespace ScanFlow

/-- What a handler is called with: the queue of the message, and its workflow. It is not called
with a message that is not valid. -/
def Delivery.handed? (delivery : Delivery) : Option (Queue × Uuid) :=
  match Completion.parse delivery.queue delivery.payload with
  | .ok message => some (delivery.queue, message.workflowId)
  | .error _ => none

def HandlerEvent.subject (event : HandlerEvent) : Queue × Uuid := (event.queue, event.workflowId)

def Handler.Answers (handler : Handler) : Prop :=
  ∀ number message, handler number message ≠ .hangs

namespace CrewEvent

def handed? : CrewEvent → Option (Queue × Uuid)
  | taken found => found.bind Delivery.handed?
  | _ => none

def isQuiet : CrewEvent → Bool
  | taken found => found.isNone
  | settled _ .nack (.ok ()) => false
  | _ => true

/-- What is handed back has not been claimed again by others. -/
def Timely (history : List CrewEvent) : Prop :=
  ∀ before copy after, history = before ++ .settled copy .nack (.ok ()) :: after →
    copy.attempts = before.countP (takes copy.id)

variable {history more : List CrewEvent}

theorem handed?_of_isQuiet {event : CrewEvent} (h : event.isQuiet = true) :
    event.handed? = none := by
  match event, h with
  | .taken none, _ => rfl
  | .published .., _ | .settled .., _ | .reaped _, _ | .woken, _ => rfl

theorem takes_of_isQuiet {event : CrewEvent} (h : event.isQuiet = true) (id : Uuid) :
    event.takes id = false := by
  match event, h with
  | .taken none, _ => rfl
  | .published .., _ | .settled .., _ | .reaped _, _ | .woken, _ => rfl

theorem filterMap_handed?_append (h : ∀ event ∈ more, event.isQuiet = true) :
    (history ++ more).filterMap handed? = history.filterMap handed? := by
  have hnone : more.filterMap handed? = [] :=
    List.filterMap_eq_nil_iff.mpr fun event member => handed?_of_isQuiet (h event member)
  rw [List.filterMap_append, hnone, List.append_nil]

theorem countP_takes_append (h : ∀ event ∈ more, event.isQuiet = true) (id : Uuid) :
    (history ++ more).countP (takes id) = history.countP (takes id) := by
  have hzero : more.countP (takes id) = 0 := by
    rw [List.countP_eq_zero]
    intro event member
    simp [takes_of_isQuiet (h event member)]
  rw [List.countP_append, hzero, Nat.add_zero]

theorem Timely.snoc (h : Timely history) {event : CrewEvent}
    (hevent : ∀ copy, event = .settled copy .nack (.ok ()) →
      copy.attempts = history.countP (takes copy.id)) :
    Timely (history ++ [event]) := by
  intro before copy after hsplit
  rcases List.eq_nil_or_concat' after with rfl | ⟨after, last, rfl⟩
  · obtain ⟨rfl, hlast⟩ := List.append_inj' hsplit rfl
    exact hevent copy (List.singleton_inj.mp hlast)
  · rw [← List.cons_append, ← List.append_assoc] at hsplit
    exact h before copy after (List.append_inj' hsplit rfl).1

theorem Timely.quietly (h : Timely history) (hquiet : ∀ event ∈ more, event.isQuiet = true) :
    Timely (history ++ more) := by
  induction more generalizing history with
  | nil => rwa [List.append_nil]
  | cons event rest ih =>
    obtain ⟨hevent, hrest⟩ := List.forall_mem_cons.mp hquiet
    rw [List.append_cons]
    refine ih (h.snoc ?_) hrest
    rintro copy rfl
    cases hevent

theorem Timely.not_overtaken (h : Timely history) (maxAttempts : Nat) (id : Uuid) :
    ¬ Overtaken maxAttempts id history := by
  rintro ⟨before, copy, after, hsplit, rfl, hleft, hspent, _⟩
  have hlast := h before copy after hsplit
  omega

end CrewEvent

/-! ### The crew of a system -/

/-- A system whose broker a crew works on. New messages get the numbers of the system, and those
from the next one on have not been used for messages. -/
structure System.Manned (maxAttempts : Nat) (history : List CrewEvent) (inHand : List Delivery)
    (system : System) : Prop where
  ran : Crew.Ran maxAttempts history { broker := system.broker, inHand }
  unused : ∀ n, system.nextNumber ≤ n →
    (history.map (CrewEvent.call maxAttempts)).countP (BrokerEvent.publishes (Uuid.generated n)) = 0

namespace System

variable {maxAttempts : Nat} {history : List CrewEvent} {inHand held : List Delivery}
  {system : System}

theorem Manned.empty (maxAttempts : Nat) : System.empty.Manned maxAttempts [] [] where
  ran := .start
  unused _ _ := rfl

theorem Manned.act (h : system.Manned maxAttempts history inHand) {event : CrewEvent}
    {broker : Broker} (hsilent : ∀ id, (event.call maxAttempts).publishes id = false)
    (hstep : Crew.Step maxAttempts { broker := system.broker, inHand } event
      { broker, inHand := held }) :
    { system with broker }.Manned maxAttempts (history ++ [event]) held where
  ran := by
    refine .step h.ran ?_ hstep
    intro id hpublishes
    rw [hsilent id] at hpublishes
    cases hpublishes
  unused n hn := by
    rw [List.map_append, List.countP_append, h.unused n hn]
    simp [hsilent]

theorem Manned.publish (h : system.Manned maxAttempts history inHand) (queue : Queue)
    (payload : Json) :
    { system with
      broker := system.broker.publish (Uuid.generated system.nextNumber) queue payload
      nextNumber := system.nextNumber + 1 }.Manned maxAttempts
        (history ++ [CrewEvent.published (Uuid.generated system.nextNumber) queue payload])
        inHand where
  ran := by
    refine .step h.ran ?_ (.publish (Uuid.generated system.nextNumber) queue payload)
    intro id hpublishes
    obtain rfl : Uuid.generated system.nextNumber = id := by
      simpa [CrewEvent.call, BrokerEvent.publishes] using hpublishes
    exact h.unused system.nextNumber (Nat.le_refl _)
  unused n hn := by
    have hlater : system.nextNumber < n := hn
    have hother : Uuid.generated system.nextNumber ≠ Uuid.generated n := by
      intro hsame
      have hnumber := Uuid.generated_injective hsame
      omega
    rw [List.map_append, List.countP_append, h.unused n (Nat.le_of_lt hlater)]
    simp [CrewEvent.call, BrokerEvent.publishes, hother]

theorem Manned.settle {before after : List Delivery} {copy : Delivery} {settlement : Settlement}
    (h : system.Manned maxAttempts history (before ++ copy :: after))
    (outcome : Except ServiceError Unit)
    (hchosen : copy.settlement outcome maxAttempts = settlement) :
    { system with broker := (system.broker.settle copy.id settlement).2 }.Manned maxAttempts
      (history ++ [CrewEvent.settled copy settlement (system.broker.settle copy.id settlement).1])
      (before ++ after) := by
  refine h.act (fun id => ?_) (.settle rfl outcome hchosen)
  cases settlement <;> rfl

/-- A call of a program publishes a message, or leaves the broker alone. -/
theorem Manned.perform {α : Type} (h : system.Manned maxAttempts history inHand)
    (env : Environment) (call : Call α) :
    ∃ more, (∀ event ∈ more, event.isQuiet = true) ∧
      (call.perform env system).2.Manned maxAttempts (history ++ more) inHand := by
  cases call with
  | clock | blobExists | blobUrl => exact ⟨[], by simp, by rwa [List.append_nil]⟩
  | reserve count =>
    refine ⟨[], by simp, ?_⟩
    rw [List.append_nil]
    exact ⟨h.ran, fun n hn => h.unused n (Nat.le_trans (Nat.le_add_right _ _) hn)⟩
  | store operation =>
    refine ⟨[], by simp, ?_⟩
    rw [List.append_nil]
    exact ⟨h.ran, h.unused⟩
  | publish queue payload =>
    simp only [Call.perform, System.publish]
    split
    · exact ⟨[], by simp, by rwa [List.append_nil]⟩
    · exact ⟨[_], by simp [CrewEvent.isQuiet], h.publish queue payload⟩

/-- Services publish messages, and do nothing else to a broker. -/
theorem Manned.run {α : Type} (h : system.Manned maxAttempts history inHand) (env : Environment)
    (program : Program α) :
    ∃ more, (∀ event ∈ more, event.isQuiet = true) ∧
      (program.run env system).2.Manned maxAttempts (history ++ more) inHand := by
  induction program generalizing system history with
  | done outcome => exact ⟨[], by simp, by rwa [List.append_nil]⟩
  | call request next ih =>
    obtain ⟨first, hfirst, hcalled⟩ := h.perform env request
    obtain ⟨rest, hrest, hrun⟩ := ih _ hcalled
    refine ⟨first ++ rest, List.forall_mem_append.mpr ⟨hfirst, hrest⟩, ?_⟩
    rw [← List.append_assoc]
    exact hrun

end System

/-! ### The pool -/

namespace WorkerPool

/-- What a pool begins with: how often a message may be claimed, its handler, what others have in
hand, and the history so far. -/
structure Shift where
  maxAttempts : Nat
  handler : Handler
  others : List Delivery
  earlier : List CrewEvent

variable {shift : Shift} {history more : List CrewEvent} {pending : Option Delivery}
  {pool : WorkerPool}

/-- A pool that has gone on with the history of its crew. One message may be claimed and about to
be handed over, besides those of the busy workers. -/
structure AtWork (shift : Shift) (pending : Option Delivery) (history : List CrewEvent)
    (pool : WorkerPool) : Prop where
  attempts : pool.settings.maxAttempts = shift.maxAttempts
  handler : pool.handler = shift.handler
  manned : pool.system.Manned shift.maxAttempts (shift.earlier ++ history)
    (shift.others ++ pool.busy.map BusyWorker.delivery ++ pending.toList)
  valid : ∀ worker ∈ pool.busy, worker.delivery.isValid = true
  calls : pool.history.map HandlerEvent.subject ++ (pending.bind Delivery.handed?).toList =
    history.filterMap CrewEvent.handed?
  current : ∀ copy, pending = some copy →
    copy.attempts = (shift.earlier ++ history).countP (CrewEvent.takes copy.id)
  prompt : shift.handler.Answers → pool.busy = [] ∧
    (CrewEvent.Timely shift.earlier → CrewEvent.Timely (shift.earlier ++ history))

theorem AtWork.quietly (h : AtWork shift pending history pool) {system : System}
    (hquiet : ∀ event ∈ more, event.isQuiet = true)
    (hmanned : system.Manned shift.maxAttempts (shift.earlier ++ history ++ more)
      (shift.others ++ pool.busy.map BusyWorker.delivery ++ pending.toList)) :
    AtWork shift pending (history ++ more) { pool with system } where
  attempts := h.attempts
  handler := h.handler
  manned := by rwa [← List.append_assoc]
  valid := h.valid
  calls := by
    rw [CrewEvent.filterMap_handed?_append hquiet]
    exact h.calls
  current copy hcopy := by
    rw [← List.append_assoc, CrewEvent.countP_takes_append hquiet]
    exact h.current copy hcopy
  prompt hanswers := by
    refine ⟨(h.prompt hanswers).1, fun htimely => ?_⟩
    rw [← List.append_assoc]
    exact ((h.prompt hanswers).2 htimely).quietly hquiet

theorem atWork_takeSignal (h : AtWork shift pending history pool) :
    AtWork shift pending (history ++ [.woken]) pool.takeSignal.2 :=
  h.quietly (by simp [CrewEvent.isQuiet]) (h.manned.act (fun _ => rfl) .wake)

theorem atWork_reap (h : AtWork shift pending history pool) (env : Environment) :
    ∃ more, AtWork shift pending (history ++ more) (pool.reap env) := by
  unfold reap
  split
  · exact ⟨[], by rwa [List.append_nil]⟩
  · have hfound := pool.system.broker.stale_subperm env.now pool.settings.visibilitySeconds
    have hmanned := h.manned.act (fun _ => rfl) (.reap hfound)
    rw [h.attempts]
    exact ⟨[.reaped _], h.quietly (by simp [CrewEvent.isQuiet]) hmanned⟩

/-- The clock and the calendar of a pool do not matter. -/
theorem AtWork.retime (h : AtWork shift pending history pool) (time nextPoll nextReap : Nat) :
    AtWork shift pending history { pool with time, nextPoll, nextReap } :=
  ⟨h.attempts, h.handler, h.manned, h.valid, h.calls, h.current, h.prompt⟩

/-- A message that has just been claimed has been claimed as often as its copy says. -/
theorem AtWork.claimed (h : AtWork shift none history pool) (now : Timestamp) :
    AtWork shift (pool.system.broker.claim now Queue.completions).1
      (history ++ [.taken (pool.system.broker.claim now Queue.completions).1])
      (pool.withBroker (pool.system.broker.claim now Queue.completions).2) := by
  have hmanned := h.manned.act (fun _ => rfl) (.take now)
  have hfirst := pool.system.broker.claim_first now Queue.completions
  generalize pool.system.broker.claim now Queue.completions = claimed at hmanned hfirst
  cases hfirst with
  | nothing =>
    exact h.quietly (by simp [CrewEvent.isQuiet]) (by simpa using hmanned)
  | @first before after message =>
    rw [List.append_assoc shift.earlier] at hmanned
    constructor
    · exact h.attempts
    · exact h.handler
    · simpa [withBroker] using hmanned
    · exact h.valid
    · have hcalls := h.calls
      simp only [Option.bind_none, Option.toList_none, List.append_nil] at hcalls
      rw [List.filterMap_append, ← hcalls]
      cases hhanded : message.again.handed? <;>
        simp [withBroker, WorkerPool.history, CrewEvent.handed?, hhanded]
    · rintro _ ⟨⟩
      refine hmanned.ran.attempts (Or.inr ⟨⟨message.again, now⟩, ?_, rfl⟩)
      rw [SortedMap.get?_insert]
      exact if_pos rfl
    · intro hanswers
      refine ⟨(h.prompt hanswers).1, fun htimely => ?_⟩
      rw [← List.append_assoc]
      exact ((h.prompt hanswers).2 htimely).snoc (by rintro copy ⟨⟩)

theorem atWork_claim (h : AtWork shift none history pool) (env : Environment) :
    ∃ more, AtWork shift (pool.claim env).1 (history ++ more) (pool.claim env).2 := by
  have hlater := h.retime pool.time (pool.time + pool.pollInterval) pool.nextReap
  simp only [claim]
  split
  · exact ⟨_, hlater.claimed env.now⟩
  · exact ⟨[], by rwa [List.append_nil]⟩

/-- A worker settles the message that it has just claimed. Meanwhile its handler has only
published. -/
theorem AtWork.settled {delivery : Delivery} {settlement : Settlement} {system : System}
    {events : List HandlerEvent} (h : AtWork shift (some delivery) history pool)
    (outcome : Except ServiceError Unit)
    (hchosen : delivery.settlement outcome shift.maxAttempts = settlement)
    (hquiet : ∀ event ∈ more, event.isQuiet = true)
    (hmanned : system.Manned shift.maxAttempts (shift.earlier ++ history ++ more)
      (shift.others ++ pool.busy.map BusyWorker.delivery ++ [delivery]))
    (hcalls : events.reverse.map HandlerEvent.subject =
      pool.history.map HandlerEvent.subject ++ delivery.handed?.toList) :
    ∃ more, AtWork shift none (history ++ more)
      { pool with
        events
        system := { system with broker := (system.broker.settle delivery.id settlement).2 } } := by
  have hsettled := hmanned.settle outcome hchosen
  generalize system.broker.settle delivery.id settlement = answer at hsettled
  -- Nothing has been claimed since, so this is the last claim of the message.
  have hlast : delivery.attempts =
      (shift.earlier ++ history ++ more).countP (CrewEvent.takes delivery.id) := by
    rw [CrewEvent.countP_takes_append hquiet]
    exact h.current delivery rfl
  refine ⟨more ++ [.settled delivery settlement answer.1], ?_⟩
  constructor
  · exact h.attempts
  · exact h.handler
  · simpa using hsettled
  · exact h.valid
  · rw [← List.append_assoc, List.filterMap_append, CrewEvent.filterMap_handed?_append hquiet,
      ← h.calls]
    exact congrArg (· ++ []) hcalls
  · rintro _ ⟨⟩
  · intro hanswers
    refine ⟨(h.prompt hanswers).1, fun htimely => ?_⟩
    rw [← List.append_assoc, ← List.append_assoc]
    apply (((h.prompt hanswers).2 htimely).quietly hquiet).snoc
    intro copy hsame
    injection hsame with hcopy
    exact hcopy ▸ hlast

/-- A message that a handler is called with is handed over, whatever the handler does. -/
theorem atWork_handle {delivery : Delivery}
    (h : AtWork shift (some delivery) history pool) (env : Environment) :
    ∃ more, AtWork shift none (history ++ more) (pool.handle env delivery) := by
  unfold handle
  split
  · rename_i hinvalid
    have hunhanded : delivery.handed? = none := by simp [Delivery.handed?, hinvalid]
    have hack : delivery.settlement (.ok ()) shift.maxAttempts = .ack := ite_self _
    exact h.settled (.ok ()) hack (List.forall_mem_nil _) (by simpa using h.manned)
      (by simp [hunhanded, WorkerPool.history])
  · rename_i message hparsed
    have hhanded : delivery.handed? = some (delivery.queue, message.workflowId) := by
      simp [Delivery.handed?, hparsed]
    have hvalid : delivery.isValid = true := by simp [Delivery.isValid, hparsed]
    simp only
    split
    · rename_i hhangs
      refine ⟨[], ?_⟩
      constructor
      · exact h.attempts
      · exact h.handler
      · simpa using h.manned
      · intro worker member
        rcases List.mem_append.mp member with hold | hnew
        · exact h.valid worker hold
        · rw [List.mem_singleton.mp hnew]
          exact hvalid
      · have hcalls := h.calls
        rw [Option.bind_some, hhanded] at hcalls
        simpa [WorkerPool.history, HandlerEvent.subject] using hcalls
      · rintro _ ⟨⟩
      · exact fun hanswers => absurd hhangs (h.handler ▸ hanswers _ _)
    · rename_i program hanswers
      obtain ⟨published, hquiet, hran⟩ := h.manned.run env program
      have hchosen (outcome : Except ServiceError Unit) :
          delivery.settlement outcome shift.maxAttempts =
            Settlement.ofOutcome outcome delivery.attempts pool.settings.maxAttempts := by
        rw [h.attempts]
        exact if_pos hvalid
      exact h.settled _ (hchosen _) hquiet hran (by
        simp [WorkerPool.history, HandlerEvent.subject, hhanded])

/-- The worker that has been busy longest hands its message back, if its copy has attempts left. -/
theorem atWork_giveUp {worker : BusyWorker} (h : AtWork shift none history pool)
    (hfirst : pool.busy.head? = some worker) :
    ∃ more, AtWork shift none (history ++ more) (pool.giveUp worker) := by
  obtain ⟨rest, hbusy⟩ := List.head?_eq_some_iff.mp hfirst
  have hvalid : worker.delivery.isValid = true := h.valid worker (hbusy ▸ List.mem_cons_self)
  have hmanned := h.manned
  simp only [hbusy, List.map_cons, Option.toList_none, List.append_nil] at hmanned
  have hsettled := hmanned.settle (.error (timeoutError pool.settings.handlerSeconds))
    (if_pos hvalid)
  unfold giveUp settle
  rw [h.attempts]
  generalize Settlement.ofOutcome _ worker.delivery.attempts shift.maxAttempts = settlement
    at hsettled ⊢
  refine ⟨[.settled worker.delivery settlement
    (pool.system.broker.settle worker.delivery.id settlement).1], ?_⟩
  constructor
  · exact h.attempts
  · exact h.handler
  · simpa [withBroker, hbusy] using hsettled
  · exact fun other member => h.valid other (List.mem_of_mem_tail member)
  · rw [List.filterMap_append, ← h.calls]
    exact (List.append_nil _).symm
  · rintro _ ⟨⟩
  · intro hanswers
    rw [(h.prompt hanswers).1] at hfirst
    cases hfirst

theorem atWork_wake (h : AtWork shift none history pool) (env : Environment) :
    ∃ more, AtWork shift none (history ++ more) (pool.wake env) := by
  obtain ⟨claimed, hclaimed⟩ := atWork_claim h env
  unfold wake
  split
  · rename_i delivery next hfound
    rw [hfound] at hclaimed
    obtain ⟨handled, hhandled⟩ := atWork_handle hclaimed env
    exact ⟨claimed ++ handled, by rwa [← List.append_assoc]⟩
  · rename_i next hnothing
    rw [hnothing] at hclaimed
    exact ⟨claimed, hclaimed⟩

/-- The earliest of some actions is one of them. -/
theorem firstAction?_mem {actions : List Action} {action : Action}
    (h : firstAction? actions = some action) : action ∈ actions := by
  suffices hor : ∀ earliest : Option Action,
      actions.foldl (fun first action =>
        if first.any fun other => other.before action then first else some action) earliest =
          some action → action ∈ actions ∨ earliest = some action from
    (hor none h).resolve_right (by simp)
  clear h
  induction actions with
  | nil => exact fun _ h => Or.inr h
  | cons head rest ih =>
    intro earliest h
    rcases ih _ h with hrest | hchosen
    · exact Or.inl (List.mem_cons_of_mem _ hrest)
    · by_cases hearlier : (earliest.any fun other => other.before head) = true
      · exact Or.inr ((if_pos hearlier).symm.trans hchosen)
      · cases (if_neg hearlier).symm.trans hchosen
        exact Or.inl List.mem_cons_self

/-- Only the worker that has been busy longest is given up. -/
theorem head?_of_giveUp_mem {env : Environment} {worker : BusyWorker}
    (h : Action.giveUp worker ∈ pool.actions env) : pool.busy.head? = some worker := by
  simpa [actions] using h

/-- Each step of a pool is a piece of the history of its crew. -/
theorem atWork_step (h : AtWork shift none history pool) {env : Environment} {next : WorkerPool}
    (hstep : pool.step? env = some next) :
    ∃ more, AtWork shift none (history ++ more) next := by
  have hlowered := atWork_takeSignal h
  suffices hrest : ∃ more, AtWork shift none (history ++ [.woken] ++ more) next by
    obtain ⟨more, hmore⟩ := hrest
    exact ⟨.woken :: more, by simpa using hmore⟩
  unfold step? at hstep
  split at hstep
  · rename_i lowered hsignal
    rw [hsignal] at hlowered
    cases hstep
    exact atWork_wake hlowered env
  · rename_i lowered hsignal
    rw [hsignal] at hlowered
    obtain ⟨action, hfirst, hacts⟩ := Option.map_eq_some_iff.mp hstep
    have hmem := firstAction?_mem hfirst
    cases action with
    | giveUp worker =>
      cases hacts
      exact atWork_giveUp hlowered (head?_of_giveUp_mem hmem)
    | reap time =>
      cases hacts
      exact atWork_reap (hlowered.retime time lowered.nextPoll (time + lowered.reapInterval)) env
    | poll time =>
      cases hacts
      exact atWork_wake (hlowered.retime time lowered.nextPoll lowered.nextReap) env

theorem atWork_work (h : AtWork shift none history pool) (env : Environment) (fuel : Nat) :
    ∃ more, AtWork shift none (history ++ more) (work env fuel pool) := by
  induction fuel generalizing history pool with
  | zero => exact ⟨[], by rwa [List.append_nil]⟩
  | succ fuel ih =>
    unfold work
    split
    · exact ⟨[], by rwa [List.append_nil]⟩
    · split
      · rename_i next hstep
        obtain ⟨first, hfirst⟩ := atWork_step h hstep
        obtain ⟨rest, hrest⟩ := ih hfirst
        exact ⟨first ++ rest, by rwa [← List.append_assoc]⟩
      · exact ⟨[], by rwa [List.append_nil]⟩

/-- A pool may be started beside others, at any point of a history. -/
theorem atWork_start {settings : PoolSettings} {system : System} {others : List Delivery}
    {earlier : List CrewEvent} (h : system.Manned settings.maxAttempts earlier others)
    (handler : Handler) (env : Environment) :
    ∃ history, AtWork { maxAttempts := settings.maxAttempts, handler, others, earlier } none history
      (start settings handler env system) := by
  have hfirst : AtWork { maxAttempts := settings.maxAttempts, handler, others, earlier } none []
      { settings, handler, system
        time := 0
        nextPoll := max 1 settings.pollMillis
        nextReap := settings.reapSeconds * 1000
        busy := []
        events := [] } := by
    constructor
    · rfl
    · rfl
    · simpa using h
    · exact List.forall_mem_nil _
    · rfl
    · rintro _ ⟨⟩
    · exact fun _ => ⟨rfl, fun htimely => by rwa [List.append_nil]⟩
  have hlowered := atWork_takeSignal hfirst
  simp only [start]
  split
  · rename_i lowered hsignal
    rw [hsignal] at hlowered
    obtain ⟨claimed, hclaimed⟩ := atWork_claim hlowered env
    split
    · rename_i delivery next hfound
      rw [hfound] at hclaimed
      obtain ⟨reaped, hreaped⟩ := atWork_reap hclaimed env
      obtain ⟨handled, hhandled⟩ := atWork_handle hreaped env
      exact ⟨_, hhandled⟩
    · rename_i next hnothing
      rw [hnothing] at hclaimed
      obtain ⟨reaped, hreaped⟩ := atWork_reap hclaimed env
      exact ⟨_, hreaped⟩
  · rename_i lowered hsignal
    rw [hsignal] at hlowered
    obtain ⟨reaped, hreaped⟩ := atWork_reap hlowered env
    exact ⟨_, hreaped⟩

/-- Whatever a pool has done, it has gone on with the history of its crew, and the calls of its
handler are what it has handed over. No message is handed over twice as often as it has attempts,
and if the handler answers every call, none is handed over more often than it has attempts. -/
theorem hands_over {settings : PoolSettings} {system : System} {others : List Delivery}
    {earlier : List CrewEvent} (hpositive : 1 ≤ settings.maxAttempts)
    (h : system.Manned settings.maxAttempts earlier others) (handler : Handler)
    (env : Environment) (fuel : Nat) {pool : WorkerPool}
    (hpool : work env fuel (start settings handler env system) = pool) :
    ∃ history : List CrewEvent,
      pool.system.Manned settings.maxAttempts (earlier ++ history)
        (others ++ pool.busy.map BusyWorker.delivery) ∧
      pool.history.map HandlerEvent.subject = history.filterMap CrewEvent.handed? ∧
      ∀ id, (earlier ++ history).countP (CrewEvent.hands id) < 2 * settings.maxAttempts ∧
        (handler.Answers → CrewEvent.Timely earlier →
          (earlier ++ history).countP (CrewEvent.hands id) ≤ settings.maxAttempts) := by
  obtain ⟨begun, hbegun⟩ := atWork_start h handler env
  obtain ⟨more, hdone⟩ := atWork_work hbegun env fuel
  rw [hpool] at hdone
  have hran := hdone.manned.ran
  refine ⟨begun ++ more, ?_, ?_, fun id => ⟨hran.handed_lt hpositive id, ?_⟩⟩
  · simpa using hdone.manned
  · simpa using hdone.calls
  · intro hanswers hearlier
    have htimely := (hdone.prompt hanswers).2 hearlier
    exact hran.handed_le_of_not_overtaken hpositive (htimely.not_overtaken _ id)

/-- Once a program has published its messages, a single pool whose handler answers every call hands
none of them over more often than it has attempts. -/
theorem alone_hands_over {α : Type} {settings : PoolSettings}
    (hpositive : 1 ≤ settings.maxAttempts) {handler : Handler} (hanswers : handler.Answers)
    (program : Program α) (env : Environment) (fuel : Nat) {pool : WorkerPool}
    (hpool : work env fuel (start settings handler env (program.run env .empty).2) = pool) :
    ∃ history : List CrewEvent,
      pool.system.Manned settings.maxAttempts history (pool.busy.map BusyWorker.delivery) ∧
      pool.history.map HandlerEvent.subject = history.filterMap CrewEvent.handed? ∧
      ∀ id, history.countP (CrewEvent.hands id) ≤ settings.maxAttempts := by
  obtain ⟨published, hquiet, hmanned⟩ := (System.Manned.empty settings.maxAttempts).run env program
  obtain ⟨history, hdone, hcalls, hbound⟩ := hands_over hpositive hmanned handler env fuel hpool
  have htimely : CrewEvent.Timely ([] ++ published) :=
    CrewEvent.Timely.quietly (by simp [CrewEvent.Timely]) hquiet
  refine ⟨[] ++ published ++ history, ?_, ?_, fun id => (hbound id).2 hanswers htimely⟩
  · simpa using hdone
  · rw [hcalls, List.filterMap_append, CrewEvent.filterMap_handed?_append hquiet]
    rfl

/-- A handler that hangs is called three times with a message that has two attempts, if its claims
are too old at once. -/
example :
    let settings : PoolSettings := { visibilitySeconds := 0, handlerSeconds := 1, maxAttempts := 2 }
    let system :=
      (System.empty.publish System.quietWorld .compileFinish (Crew.tried 0).payload).2
    let pool := start settings (fun _ _ => .hangs) System.quietWorld system
    (work System.quietWorld 20 pool).history.length = 3 := by
  decide +kernel

end WorkerPool

end ScanFlow
