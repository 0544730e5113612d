import ScanFlow.Proofs.Broker.Conservation
import ScanFlow.WorkerPool

/-!
How often a message is handed to a handler.

Any number of workers claim completion messages from one broker, beside a reaper that returns the
messages of old claims. A worker has a copy of what it has claimed, with the attempts of its own
claim. Both the worker and the reaper count attempts before they let a message go back to the
line, but not the same ones: the reaper looks at the message, the worker at its copy. A worker
hands back by identifier, and so it can hand back what has been claimed anew in the meantime, even
for the last time.

A crew that runs is followed call by call. What it may do with one message is bounded by the
copies that still have attempts left: each of them can be handed back once.
-/

namespace ScanFlow

structure Crew where
  broker : Broker
  inHand : List Delivery

inductive CrewEvent where
  | published (id : Uuid) (queue : Queue) (payload : Json)
  | taken (found : Option Delivery)
  | settled (copy : Delivery) (settlement : Settlement) (outcome : Except BrokerError Unit)
  | reaped (stale : List Delivery)
  | woken

def Delivery.isValid (delivery : Delivery) : Bool :=
  match Completion.parse delivery.queue delivery.payload with
  | .ok _ => true
  | .error _ => false

/-- How a worker settles its claim: a message that is not valid is dropped, for any other it
depends on what its handler came to. -/
def Delivery.settlement (copy : Delivery) (outcome : Except ServiceError Unit)
    (maxAttempts : Nat) : Settlement :=
  if copy.isValid then Settlement.ofOutcome outcome copy.attempts maxAttempts else .ack

/-- What is handed back is a valid message, and its copy has attempts left. -/
theorem Delivery.settlement_nack {copy : Delivery} {outcome : Except ServiceError Unit}
    {maxAttempts : Nat} (h : copy.settlement outcome maxAttempts = .nack) :
    copy.isValid = true ∧ copy.attempts < maxAttempts := by
  unfold Delivery.settlement Settlement.ofOutcome at h
  split at h
  · rename_i hvalid
    refine ⟨hvalid, ?_⟩
    split at h
    · cases h
    · split at h
      · rename_i hleft
        exact (by simpa using hleft : _ ∧ _).2
      · cases h
  · cases h

namespace CrewEvent

def call (maxAttempts : Nat) : CrewEvent → BrokerEvent
  | published id queue payload => .published id queue payload
  | taken found => .claimed Queue.completions found
  | settled copy .ack outcome => .acknowledged copy.id outcome
  | settled copy .nack outcome => .handedBack copy.id outcome
  | reaped stale => .reaped maxAttempts stale
  | woken => .woken

def takes (id : Uuid) : CrewEvent → Bool
  | taken found => found.any fun delivery => delivery.id = id
  | _ => false

def hands (id : Uuid) : CrewEvent → Bool
  | taken found => found.any fun delivery => delivery.id = id && delivery.isValid
  | _ => false

def returns (id : Uuid) : CrewEvent → Bool
  | settled copy .nack (.ok ()) => copy.id = id
  | _ => false

/-- A worker whose copy had attempts left has handed the message back after all its attempts had
been made. -/
def Overdue (maxAttempts : Nat) (id : Uuid) (history : List CrewEvent) : Prop :=
  ∃ before copy after, history = before ++ .settled copy .nack (.ok ()) :: after ∧
    copy.id = id ∧ copy.attempts < maxAttempts ∧ maxAttempts ≤ before.countP (takes id)

/-- The message was claimed again after that. -/
def Overtaken (maxAttempts : Nat) (id : Uuid) (history : List CrewEvent) : Prop :=
  ∃ before copy after, history = before ++ .settled copy .nack (.ok ()) :: after ∧
    copy.id = id ∧ copy.attempts < maxAttempts ∧ maxAttempts ≤ before.countP (takes id) ∧
    0 < after.countP (takes id)

variable {maxAttempts : Nat} {id : Uuid} {history : List CrewEvent} {event : CrewEvent}

theorem Overdue.snoc (h : Overdue maxAttempts id history) (event : CrewEvent) :
    Overdue maxAttempts id (history ++ [event]) := by
  obtain ⟨before, copy, after, rfl, hcopy⟩ := h
  exact ⟨before, copy, after ++ [event], by simp, hcopy⟩

theorem Overtaken.snoc (h : Overtaken maxAttempts id history) (event : CrewEvent) :
    Overtaken maxAttempts id (history ++ [event]) := by
  obtain ⟨before, copy, after, rfl, hid, hleft, hspent, hafter⟩ := h
  refine ⟨before, copy, after ++ [event], by simp, hid, hleft, hspent, ?_⟩
  rw [List.countP_append]
  exact Nat.lt_of_lt_of_le hafter (Nat.le_add_right _ _)

theorem Overdue.overtaken (h : Overdue maxAttempts id history) (htakes : event.takes id = true) :
    Overtaken maxAttempts id (history ++ [event]) := by
  obtain ⟨before, copy, after, rfl, hid, hleft, hspent⟩ := h
  refine ⟨before, copy, after ++ [event], by simp, hid, hleft, hspent, ?_⟩
  simp [List.countP_append, htakes]

theorem claims_call (maxAttempts : Nat) (id : Uuid) (event : CrewEvent) :
    (event.call maxAttempts).claims id = event.takes id := by
  cases event with
  | settled copy settlement outcome => cases settlement <;> rfl
  | _ => rfl

theorem countP_claims (maxAttempts : Nat) (id : Uuid) (history : List CrewEvent) :
    (history.map (call maxAttempts)).countP (BrokerEvent.claims id) =
      history.countP (takes id) := by
  rw [List.countP_map]
  apply List.countP_congr
  intro event _
  rw [Function.comp_apply, claims_call]

theorem takes_iff {id : Uuid} {event : CrewEvent} :
    event.takes id = true ↔ ∃ delivery, event = .taken (some delivery) ∧ delivery.id = id := by
  constructor
  · intro h
    match event, h with
    | .taken (some delivery), h => exact ⟨delivery, rfl, by simpa [takes] using h⟩
  · rintro ⟨delivery, rfl, rfl⟩
    simp [takes]

theorem takes_of_hands {id : Uuid} {event : CrewEvent} (h : event.hands id = true) :
    event.takes id = true := by
  match event, h with
  | .taken (some delivery), h =>
    simp only [hands, takes, Option.any_some, Bool.and_eq_true] at h ⊢
    exact h.1

end CrewEvent

namespace Crew

variable {maxAttempts : Nat} {history : List CrewEvent} {event : CrewEvent} {crew next : Crew}

def empty : Crew := { broker := .empty, inHand := [] }

/-- What one event makes of a crew. A handler may come to anything. -/
inductive Step (maxAttempts : Nat) (crew : Crew) : CrewEvent → Crew → Prop
  | publish (id queue payload) : Step maxAttempts crew (.published id queue payload)
      { crew with broker := crew.broker.publish id queue payload }
  | take (now) : Step maxAttempts crew (.taken (crew.broker.claim now Queue.completions).1)
      { broker := (crew.broker.claim now Queue.completions).2
        inHand := crew.inHand ++ (crew.broker.claim now Queue.completions).1.toList }
  | settle {before after : List Delivery} {copy : Delivery} {settlement : Settlement}
      (inHand : crew.inHand = before ++ copy :: after) (outcome : Except ServiceError Unit)
      (chosen : copy.settlement outcome maxAttempts = settlement) :
      Step maxAttempts crew
        (.settled copy settlement (crew.broker.settle copy.id settlement).1)
        { broker := (crew.broker.settle copy.id settlement).2, inHand := before ++ after }
  | reap {stale : List Delivery} (found : stale.Subperm crew.broker.underway) :
      Step maxAttempts crew (.reaped stale)
        { crew with broker := crew.broker.reap stale maxAttempts }
  | wake : Step maxAttempts crew .woken
      { crew with broker := { crew.broker with signalled := false } }

inductive Ran (maxAttempts : Nat) : List CrewEvent → Crew → Prop
  | start : Ran maxAttempts [] empty
  | step {history : List CrewEvent} {crew next : Crew} {event : CrewEvent}
      (ran : Ran maxAttempts history crew)
      (fresh : (event.call maxAttempts).Fresh (history.map (CrewEvent.call maxAttempts)))
      (step : crew.Step maxAttempts event next) : Ran maxAttempts (history ++ [event]) next

theorem Step.broker (h : crew.Step maxAttempts event next) :
    crew.broker.Step (event.call maxAttempts) next.broker := by
  cases h with
  | publish id queue payload => exact .publish id queue payload
  | take now => exact .claim now Queue.completions
  | @settle _ _ copy settlement =>
    cases settlement with
    | ack => exact .ack copy.id
    | nack => exact .nack copy.id
  | reap found => exact .reap maxAttempts found
  | wake => exact .wake

theorem Ran.broker (h : Ran maxAttempts history crew) :
    Broker.Ran (history.map (CrewEvent.call maxAttempts)) crew.broker := by
  induction h with
  | start => exact .start
  | step _ hfresh hstep ih =>
    rw [List.map_append, List.map_singleton]
    exact .step ih hfresh hstep.broker

/-- The attempts of a message are its claims. -/
theorem Ran.attempts (h : Ran maxAttempts history crew) {delivery : Delivery}
    (hholds : crew.broker.Holds delivery) :
    delivery.attempts = history.countP (CrewEvent.takes delivery.id) := by
  rw [(h.broker.accounts.recorded delivery hholds).attempts, CrewEvent.countP_claims]

/-- The claims of one message agree on whether it is valid. -/
theorem Ran.isValid_eq (h : Ran maxAttempts history crew) {first second : Delivery}
    (hfirst : .taken (some first) ∈ history) (hsecond : .taken (some second) ∈ history)
    (hsame : first.id = second.id) : first.isValid = second.isValid := by
  have hpublished {delivery : Delivery} (hmem : .taken (some delivery) ∈ history) :
      .published delivery.id delivery.queue delivery.payload ∈
        history.map (CrewEvent.call maxAttempts) := by
    have hclaimed : BrokerEvent.claimed Queue.completions (some delivery) ∈
        history.map (CrewEvent.call maxAttempts) := List.mem_map_of_mem hmem
    exact h.broker.accounts.published hclaimed (List.mem_singleton_self delivery)
  obtain ⟨hqueue, hpayload⟩ :=
    h.broker.accounts.published_unique (hpublished hfirst) (hsame ▸ hpublished hsecond)
  unfold Delivery.isValid
  rw [hqueue, hpayload]

/-- Workers have in hand what they have claimed. -/
theorem Ran.copies (h : Ran maxAttempts history crew) :
    ∀ copy ∈ crew.inHand, .taken (some copy) ∈ history := by
  induction h with
  | start => nofun
  | @step history crew _ event ran _ hstep ih =>
    intro copy member
    suffices hor : copy ∈ crew.inHand ∨ event = .taken (some copy) by
      rcases hor with hold | rfl
      · exact List.mem_append_left _ (ih copy hold)
      · exact List.mem_append_right _ (List.mem_singleton_self _)
    cases hstep with
    | publish | reap | wake => exact Or.inl member
    | take now =>
      rcases List.mem_append.mp member with hold | hnew
      · exact Or.inl hold
      · rw [Option.mem_toList] at hnew
        exact Or.inr (congrArg CrewEvent.taken hnew)
    | settle hinHand =>
      left
      rw [hinHand, List.mem_append, List.mem_cons]
      exact (List.mem_append.mp member).imp_right Or.inr

/-- What is handed back had been claimed, was valid, and its copy had attempts left. -/
theorem Ran.returned (h : Ran maxAttempts history crew) {copy : Delivery}
    {outcome : Except BrokerError Unit} (hmem : .settled copy .nack outcome ∈ history) :
    .taken (some copy) ∈ history ∧ copy.isValid = true ∧ copy.attempts < maxAttempts := by
  induction h with
  | start => cases hmem
  | @step history crew _ event ran _ hstep ih =>
    rcases List.mem_append.mp hmem with hold | hnew
    · obtain ⟨htaken, hrest⟩ := ih hold
      exact ⟨List.mem_append_left _ htaken, hrest⟩
    · cases List.mem_singleton.mp hnew
      generalize hevent : CrewEvent.settled copy .nack outcome = event at hstep
      cases hstep with
      | settle hinHand result hchosen =>
        cases hevent
        refine ⟨List.mem_append_left _ (ran.copies copy ?_), Delivery.settlement_nack hchosen⟩
        rw [hinHand]
        exact List.mem_append_right _ List.mem_cons_self
      | _ => cases hevent

/-- How often a message was claimed, handed back, is ready, and is in the hands of workers whose
copies have attempts left. Such a worker hands back once at most, and every claim after the last
attempt takes one such return. -/
structure Spent (maxAttempts : Nat) (id : Uuid) (history : List CrewEvent) (crew : Crew) :
    Prop where
  claims : history.countP (CrewEvent.returns id) +
      crew.inHand.countP (fun copy => copy.id = id && copy.attempts < maxAttempts) ≤
    history.countP (CrewEvent.takes id)
  left : history.countP (CrewEvent.returns id) +
      crew.inHand.countP (fun copy => copy.id = id && copy.attempts < maxAttempts) < maxAttempts
  late : maxAttempts ≤ history.countP (CrewEvent.takes id) →
    history.countP (CrewEvent.takes id) +
        crew.broker.ready.countP (fun delivery => delivery.id = id) ≤
      maxAttempts + history.countP (CrewEvent.returns id)
  overdue : ∀ delivery ∈ crew.broker.ready, delivery.id = id → maxAttempts ≤ delivery.attempts →
    CrewEvent.Overdue maxAttempts id history
  overtaken : maxAttempts < history.countP (CrewEvent.takes id) →
    CrewEvent.Overtaken maxAttempts id history

variable {id : Uuid}

theorem Spent.empty (hpositive : 1 ≤ maxAttempts) : Spent maxAttempts id [] empty where
  claims := Nat.le_refl 0
  left := hpositive
  late h := by
    have hzero : maxAttempts ≤ 0 := h
    omega
  overdue _ h := by cases h
  overtaken h := by cases h

/-- An event that neither claims the message nor hands it back keeps the account, if it puts the
message back with attempts left only. -/
theorem Spent.quiet (h : Spent maxAttempts id history crew) (htakes : event.takes id = false)
    (hreturns : event.returns id = false)
    (hinHand : next.inHand.countP (fun copy => copy.id = id && copy.attempts < maxAttempts) ≤
      crew.inHand.countP (fun copy => copy.id = id && copy.attempts < maxAttempts))
    (hready : ∀ delivery ∈ next.broker.ready, delivery.id = id →
      delivery ∈ crew.broker.ready ∨ delivery.attempts < maxAttempts)
    (hcount : maxAttempts ≤ history.countP (CrewEvent.takes id) →
      next.broker.ready.countP (fun delivery => delivery.id = id) ≤
        crew.broker.ready.countP fun delivery => delivery.id = id) :
    Spent maxAttempts id (history ++ [event]) next := by
  have htakes : (history ++ [event]).countP (CrewEvent.takes id) =
      history.countP (CrewEvent.takes id) := by
    simp [List.countP_append, htakes]
  have hreturns : (history ++ [event]).countP (CrewEvent.returns id) =
      history.countP (CrewEvent.returns id) := by
    simp [List.countP_append, hreturns]
  constructor
  · rw [htakes, hreturns]
    exact Nat.le_trans (Nat.add_le_add_left hinHand _) h.claims
  · rw [hreturns]
    exact Nat.lt_of_le_of_lt (Nat.add_le_add_left hinHand _) h.left
  · rw [htakes, hreturns]
    intro hlate
    exact Nat.le_trans (Nat.add_le_add_left (hcount hlate) _) (h.late hlate)
  · intro delivery member hid hspent
    rcases hready delivery member hid with hold | hleft
    · exact (h.overdue delivery hold hid hspent).snoc event
    · exact absurd hspent (Nat.not_le.mpr hleft)
  · rw [htakes]
    exact fun hmore => (h.overtaken hmore).snoc event

/-- The message is claimed once more. -/
theorem Spent.taken (ran : Ran maxAttempts history crew) (h : Spent maxAttempts id history crew)
    {before after : List Delivery} {message : Delivery}
    (hline : crew.broker.ready = before ++ message :: after) (hid : message.id = id)
    (hready : next.broker.ready = before ++ after)
    (hinHand : next.inHand = crew.inHand ++ [message.again]) :
    Spent maxAttempts id (history ++ [.taken (some message.again)]) next := by
  have hmem : message ∈ crew.broker.ready := hline ▸ by simp
  have hattempts := ran.attempts (Or.inl hmem)
  rw [hid] at hattempts
  have htakes : (history ++ [CrewEvent.taken (some message.again)]).countP (CrewEvent.takes id) =
      history.countP (CrewEvent.takes id) + 1 := by
    simp [List.countP_append, CrewEvent.takes, Delivery.again, hid]
  have hreturns : (history ++ [CrewEvent.taken (some message.again)]).countP
      (CrewEvent.returns id) = history.countP (CrewEvent.returns id) := by
    simp [List.countP_append, CrewEvent.returns]
  have hcopies : next.inHand.countP (fun copy => copy.id = id && copy.attempts < maxAttempts) =
      crew.inHand.countP (fun copy => copy.id = id && copy.attempts < maxAttempts) +
        if message.attempts + 1 < maxAttempts then 1 else 0 := by
    rw [hinHand, List.countP_append, List.countP_singleton]
    simp [Delivery.again, hid]
  -- The line had the message once, so it has it no more.
  have hsingle := ran.broker.accounts.single id
  simp only [Broker.copies, hline, List.countP_append, List.countP_cons, hid, decide_true,
    if_true] at hsingle
  have hgone : next.broker.ready.countP (fun delivery => delivery.id = id) = 0 := by
    rw [hready, List.countP_append]
    omega
  have hclaims := h.claims
  have hleft := h.left
  constructor
  · rw [htakes, hreturns, hcopies]
    split <;> omega
  · rw [hreturns, hcopies]
    split <;> omega
  · rw [htakes, hreturns, hgone]
    intro hlate
    by_cases hearlier : maxAttempts ≤ history.countP (CrewEvent.takes id)
    · have hbefore := h.late hearlier
      rw [hline, List.countP_append, List.countP_cons] at hbefore
      simp only [hid, decide_true, if_true] at hbefore
      omega
    · omega
  · intro delivery member hsame
    have hnone := List.countP_eq_zero.mp hgone delivery member
    simp [hsame] at hnone
  · rw [htakes]
    intro hmore
    have hoverdue := h.overdue message hmem hid (by omega)
    exact hoverdue.overtaken (by simp [CrewEvent.takes, Delivery.again, hid])

theorem Spent.take (ran : Ran maxAttempts history crew) (h : Spent maxAttempts id history crew)
    (now : Timestamp) :
    Spent maxAttempts id (history ++ [.taken (crew.broker.claim now Queue.completions).1])
      { broker := (crew.broker.claim now Queue.completions).2
        inHand := crew.inHand ++ (crew.broker.claim now Queue.completions).1.toList } := by
  have hfirst := crew.broker.claim_first now Queue.completions
  generalize crew.broker.claim now Queue.completions = claimed at hfirst
  cases hfirst with
  | nothing =>
    exact h.quiet rfl rfl (by simp) (fun _ member _ => Or.inl member) fun _ => Nat.le_refl _
  | @first before after message hline =>
    have hrest : (before ++ after).Sublist crew.broker.ready := by
      rw [hline]
      exact (List.sublist_cons_self message after).append_left before
    by_cases hid : message.id = id
    · exact h.taken ran hline hid rfl rfl
    · apply h.quiet
      · simpa [CrewEvent.takes, Delivery.again] using hid
      · rfl
      · simp [Delivery.again, hid]
      · exact fun delivery member _ => Or.inl (hrest.subset member)
      · exact fun _ => hrest.countP_le

/-- A worker with attempts left on its copy hands the message back, which is claimed. -/
theorem Spent.returned (ran : Ran maxAttempts history crew)
    (h : Spent maxAttempts id history crew) {before after : List Delivery} {copy : Delivery}
    {claim : Claim} (hinHand : crew.inHand = before ++ copy :: after) (hid : copy.id = id)
    (hleft : copy.attempts < maxAttempts) (hclaim : crew.broker.claimed.get? copy.id = some claim)
    (hready : next.broker.ready = crew.broker.ready ++ [claim.delivery])
    (hrest : next.inHand = before ++ after) :
    Spent maxAttempts id (history ++ [.settled copy .nack (.ok ())]) next := by
  have hclaimed := ran.broker.accounts.keyed copy.id claim hclaim
  have hattempts := ran.attempts (Or.inr ⟨claim, hclaimed ▸ hclaim, rfl⟩)
  rw [hclaimed, hid] at hattempts
  have htakes : (history ++ [CrewEvent.settled copy .nack (.ok ())]).countP (CrewEvent.takes id) =
      history.countP (CrewEvent.takes id) := by
    simp [List.countP_append, CrewEvent.takes]
  have hreturns : (history ++ [CrewEvent.settled copy .nack (.ok ())]).countP
      (CrewEvent.returns id) = history.countP (CrewEvent.returns id) + 1 := by
    simp [List.countP_append, CrewEvent.returns, hid]
  have hcopies : next.inHand.countP (fun copy => copy.id = id && copy.attempts < maxAttempts) + 1 =
      crew.inHand.countP (fun copy => copy.id = id && copy.attempts < maxAttempts) := by
    rw [hrest, hinHand, List.countP_append, List.countP_append, List.countP_cons]
    simp [hid, hleft]
    omega
  have hcount : next.broker.ready.countP (fun delivery => delivery.id = id) =
      crew.broker.ready.countP (fun delivery => delivery.id = id) + 1 := by
    rw [hready, List.countP_append, List.countP_singleton]
    simp [hclaimed, hid]
  have hclaims := h.claims
  have hbound := h.left
  constructor
  · rw [htakes, hreturns]
    omega
  · rw [hreturns]
    omega
  · rw [htakes, hreturns, hcount]
    intro hlate
    have hbefore := h.late hlate
    omega
  · intro delivery member hsame hspent
    rw [hready, List.mem_append, List.mem_singleton] at member
    rcases member with hold | rfl
    · exact (h.overdue delivery hold hsame hspent).snoc _
    · exact ⟨history, copy, [], rfl, hid, hleft, hattempts ▸ hspent⟩
  · rw [htakes]
    exact fun hmore => (h.overtaken hmore).snoc _

theorem Spent.settle (ran : Ran maxAttempts history crew) (h : Spent maxAttempts id history crew)
    {before after : List Delivery} {copy : Delivery} {settlement : Settlement}
    (hinHand : crew.inHand = before ++ copy :: after) (outcome : Except ServiceError Unit)
    (hchosen : copy.settlement outcome maxAttempts = settlement) :
    Spent maxAttempts id
      (history ++ [.settled copy settlement (crew.broker.settle copy.id settlement).1])
      { broker := (crew.broker.settle copy.id settlement).2, inHand := before ++ after } := by
  have hrest : (before ++ after).Sublist crew.inHand := by
    rw [hinHand]
    exact (List.sublist_cons_self copy after).append_left before
  cases settlement with
  | ack =>
    have hready : (crew.broker.ack copy.id).2.ready = crew.broker.ready := by
      unfold Broker.ack
      split <;> rfl
    apply h.quiet
    · rfl
    · rfl
    · exact hrest.countP_le
    · exact fun delivery member _ => Or.inl (hready ▸ member)
    · exact fun _ => Nat.le_of_eq (by simp only [Broker.settle, hready])
  | nack =>
    have hleft := (Delivery.settlement_nack hchosen).2
    simp only [Broker.settle]
    unfold Broker.nack
    split
    · apply h.quiet rfl rfl hrest.countP_le
      · exact fun _ member _ => Or.inl member
      · exact fun _ => Nat.le_refl _
    · rename_i claim hclaim
      by_cases hid : copy.id = id
      · exact h.returned ran hinHand hid hleft hclaim rfl rfl
      · have hother : claim.delivery.id ≠ id :=
          ran.broker.accounts.keyed copy.id claim hclaim ▸ hid
        apply h.quiet
        · rfl
        · simpa [CrewEvent.returns] using hid
        · exact hrest.countP_le
        · intro delivery member hsame
          rcases List.mem_append.mp member with hold | hnew
          · exact Or.inl hold
          · rw [List.mem_singleton.mp hnew] at hsame
            exact absurd hsame hother
        · intro _
          simp [List.countP_append, hother]

theorem Spent.reap (ran : Ran maxAttempts history crew) (h : Spent maxAttempts id history crew)
    {stale : List Delivery} (hfound : stale.Subperm crew.broker.underway) :
    Spent maxAttempts id (history ++ [.reaped stale])
      { crew with broker := crew.broker.reap stale maxAttempts } := by
  apply h.quiet
  · rfl
  · rfl
  · exact Nat.le_refl _
  · intro delivery member _
    rcases List.mem_append.mp member with hold | hreturned
    · exact Or.inl hold
    · exact Or.inr (by simpa using (List.mem_filter.mp hreturned).2)
  · intro hlate
    -- The reaper looks at the message, and a message that was claimed so often is not returned.
    have hnone : (stale.filter fun delivery => delivery.attempts < maxAttempts).countP
        (fun delivery => delivery.id = id) = 0 := by
      rw [List.countP_eq_zero]
      intro delivery member hid
      obtain ⟨hmem, hleft⟩ := List.mem_filter.mp member
      have hclaimed := Broker.get?_of_underway ran.broker.accounts.keyed (hfound.subset hmem)
      have hattempts := ran.attempts (Or.inr hclaimed)
      simp only [decide_eq_true_eq] at hid hleft
      rw [hid] at hattempts
      omega
    rw [Broker.reap, List.countP_append, hnone]
    exact Nat.le_refl _

theorem Ran.spent (hpositive : 1 ≤ maxAttempts) (h : Ran maxAttempts history crew) (id : Uuid) :
    Spent maxAttempts id history crew := by
  induction h with
  | start => exact .empty hpositive
  | step ran hfresh hstep ih =>
    cases hstep with
    | publish new queue payload =>
      have hpositive : 0 < maxAttempts := hpositive
      refine ih.quiet rfl rfl (Nat.le_refl _) ?_ ?_
      · intro delivery member _
        rcases List.mem_append.mp member with hold | hnew
        · exact Or.inl hold
        · rw [List.mem_singleton.mp hnew]
          exact Or.inr hpositive
      · intro hlate
        by_cases hid : new = id
        · have hunpublished := hfresh new (by simp [CrewEvent.call, BrokerEvent.publishes])
          have hunclaimed := ran.broker.accounts.unclaimed hunpublished
          rw [CrewEvent.countP_claims, hid] at hunclaimed
          omega
        · simp [Broker.publish, List.countP_append, hid]
    | take now => exact ih.take ran now
    | settle hinHand outcome hchosen => exact ih.settle ran hinHand outcome hchosen
    | reap hfound => exact ih.reap ran hfound
    | wake =>
      exact ih.quiet rfl rfl (Nat.le_refl _) (fun _ member _ => Or.inl member)
        fun _ => Nat.le_refl _

theorem countP_hands_le (id : Uuid) (history : List CrewEvent) :
    history.countP (CrewEvent.hands id) ≤ history.countP (CrewEvent.takes id) :=
  List.countP_mono_left fun _ _ => CrewEvent.takes_of_hands

/-- What was handed back reaches a handler with every claim. -/
theorem Ran.hands_eq_takes (h : Ran maxAttempts history crew) {copy : Delivery}
    {outcome : Except BrokerError Unit} (hmem : .settled copy .nack outcome ∈ history) :
    history.countP (CrewEvent.hands copy.id) = history.countP (CrewEvent.takes copy.id) := by
  obtain ⟨htaken, hvalid, _⟩ := h.returned hmem
  apply List.countP_congr
  intro event member
  refine ⟨CrewEvent.takes_of_hands, fun htakes => ?_⟩
  obtain ⟨delivery, rfl, hsame⟩ := CrewEvent.takes_iff.mp htakes
  have hdelivery : delivery.isValid = true := (h.isValid_eq member htaken hsame).trans hvalid
  simp [CrewEvent.hands, hsame, hdelivery]

theorem Ran.handed_le_of_not_overtaken (hpositive : 1 ≤ maxAttempts)
    (h : Ran maxAttempts history crew) (hnot : ¬ CrewEvent.Overtaken maxAttempts id history) :
    history.countP (CrewEvent.hands id) ≤ maxAttempts := by
  apply Nat.le_of_not_lt
  intro hmany
  have htakes := Nat.lt_of_lt_of_le hmany (countP_hands_le id history)
  exact hnot ((h.spent hpositive id).overtaken htakes)

theorem Ran.handed_lt (hpositive : 1 ≤ maxAttempts) (h : Ran maxAttempts history crew)
    (id : Uuid) : history.countP (CrewEvent.hands id) < 2 * maxAttempts := by
  have hspent := h.spent hpositive id
  have hleft := hspent.left
  have hhands := countP_hands_le id history
  by_cases hlate : maxAttempts ≤ history.countP (CrewEvent.takes id)
  · have hbound := hspent.late hlate
    omega
  · omega

/-- A message is handed to a handler at most as often as it has attempts, unless a worker with an
old copy hands it back after all attempts were made. Even then it is handed out less than twice as
often as it has attempts. -/
theorem Ran.handed_le_iff (hpositive : 1 ≤ maxAttempts) (h : Ran maxAttempts history crew)
    (id : Uuid) :
    (history.countP (CrewEvent.hands id) ≤ maxAttempts ↔
        ¬ CrewEvent.Overtaken maxAttempts id history) ∧
      history.countP (CrewEvent.hands id) < 2 * maxAttempts := by
  refine ⟨⟨?_, h.handed_le_of_not_overtaken hpositive⟩, h.handed_lt hpositive id⟩
  rintro hfew ⟨before, copy, after, hsplit, rfl, _, hearlier, hlater⟩
  have hmem : .settled copy .nack (.ok ()) ∈ history := by
    rw [hsplit]
    exact List.mem_append_right _ List.mem_cons_self
  rw [h.hands_eq_takes hmem, hsplit, List.countP_append, List.countP_cons] at hfew
  omega

def tried (attempts : Nat) : Delivery :=
  { id := Uuid.generated 0
    queue := .compileFinish
    payload := CompileFinished.toJson { workflowId := Uuid.nil, success := false, artifact := none }
    attempts }

/-- A slow worker hands back what another one has claimed in the meantime, for the last of two
times. -/
def overtaken : List CrewEvent :=
  [.published (tried 0).id (tried 0).queue (tried 0).payload, .taken (some (tried 1)),
    .reaped [tried 1], .taken (some (tried 2)), .settled (tried 1) .nack (.ok ()),
    .taken (some (tried 3))]

def waiting (attempts : Nat) : Broker :=
  { ready := [tried attempts], claimed := ∅, signalled := true }

def underway (attempts : Nat) : Broker :=
  { ready := []
    claimed := SortedMap.empty.insert (tried attempts).id ⟨tried attempts, ⟨0, 0⟩⟩
    signalled := true }

theorem ran_overtaken : Ran 2 overtaken { broker := underway 3, inHand := [tried 2, tried 3] } := by
  have hnack : (tried 1).settlement (.error (.internal "slow")) 2 = .nack := by decide +kernel
  have hpublished : Ran 2 (overtaken.take 1) { broker := waiting 0, inHand := [] } :=
    .step .start (fun _ _ => rfl) (.publish (tried 0).id (tried 0).queue (tried 0).payload)
  have hfirst : Ran 2 (overtaken.take 2) { broker := underway 1, inHand := [tried 1] } :=
    .step hpublished (fun _ h => by cases h) (.take ⟨0, 0⟩)
  have hreaped : Ran 2 (overtaken.take 3) { broker := waiting 1, inHand := [tried 1] } :=
    .step hfirst (fun _ h => by cases h) (.reap (List.Subperm.refl _))
  have hsecond : Ran 2 (overtaken.take 4) { broker := underway 2, inHand := [tried 1, tried 2] } :=
    .step hreaped (fun _ h => by cases h) (.take ⟨0, 0⟩)
  have hreturned : Ran 2 (overtaken.take 5) { broker := waiting 2, inHand := [tried 2] } :=
    .step hsecond (fun _ h => by cases h) (@Step.settle _ _ [] [tried 2] _ _ rfl _ hnack)
  exact .step hreturned (fun _ h => by cases h) (.take ⟨0, 0⟩)

/-- The message is handed to a handler three times, though it has two attempts. -/
theorem handed_three_times_of_two :
    Ran 2 overtaken { broker := underway 3, inHand := [tried 2, tried 3] } ∧
      overtaken.countP (CrewEvent.hands (tried 0).id) = 3 :=
  ⟨ran_overtaken, by decide +kernel⟩

/-- It has been overtaken, and a fourth time there will not be. -/
theorem tried_overtaken :
    CrewEvent.Overtaken 2 (tried 0).id overtaken ∧
      overtaken.countP (CrewEvent.hands (tried 0).id) < 2 * 2 := by
  have hthree : overtaken.countP (CrewEvent.hands (tried 0).id) = 3 := by decide +kernel
  obtain ⟨hiff, hbound⟩ := ran_overtaken.handed_le_iff (by decide) (tried 0).id
  refine ⟨?_, hbound⟩
  apply Classical.byContradiction
  intro hnot
  have hfew := hiff.mpr hnot
  omega

end Crew

end ScanFlow
