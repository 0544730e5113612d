import ScanFlow.Proofs.Broker.History
import ScanFlow.Proofs.Store.Lookup

/-!
The broker neither loses a message nor has it twice.

The history of the broker is the account against which it is checked. A message that the history
publishes is ready, or claimed, or removed by one call of the history, and what the broker has of
it is what was published, with one attempt for each claim that the history has of it.

The invariant is carried along the history call by call. Of each call two things are shown: how
many copies of a message it leaves, and where the messages come from that are there after it.
-/

namespace ScanFlow

namespace Broker

variable {broker next : Broker} {history : List BrokerEvent} {event : BrokerEvent}

/-! ### Copies of a message -/

def Keyed (broker : Broker) : Prop :=
  ∀ id claim, broker.claimed.get? id = some claim → claim.delivery.id = id

def copies (broker : Broker) (id : Uuid) : Nat :=
  broker.ready.countP (fun delivery => delivery.id = id) + (broker.claimed.contains id).toNat

theorem underway_ids (hkeyed : broker.Keyed) :
    broker.underway.map Delivery.id = broker.claimed.keys := by
  simp only [underway, SortedMap.values, SortedMap.keys, List.map_map]
  apply List.map_congr_left
  rintro ⟨id, claim⟩ member
  exact hkeyed id claim (SortedMap.mem_entries_iff.mp member)

theorem get?_of_underway (hkeyed : broker.Keyed) {delivery : Delivery}
    (member : delivery ∈ broker.underway) :
    ∃ claim, broker.claimed.get? delivery.id = some claim ∧ claim.delivery = delivery := by
  obtain ⟨claim, hclaim, rfl⟩ := List.mem_map.mp member
  obtain ⟨⟨id, claim⟩, hentry, rfl⟩ := List.mem_map.mp hclaim
  have hget := SortedMap.mem_entries_iff.mp hentry
  exact ⟨claim, hkeyed id claim hget ▸ hget, rfl⟩

/-- The reaper takes no message twice. -/
theorem stale_nodup (hkeyed : broker.Keyed) {stale : List Delivery}
    (hfound : stale.Subperm broker.underway) : (stale.map Delivery.id).Nodup := by
  obtain ⟨taken, hperm, hsublist⟩ := hfound
  have hids : (taken.map Delivery.id).Sublist broker.claimed.keys :=
    underway_ids hkeyed ▸ hsublist.map Delivery.id
  exact (hperm.map Delivery.id).nodup (broker.claimed.keys_nodup.sublist hids)

theorem countP_id_le_one {messages : List Delivery} (hnodup : (messages.map Delivery.id).Nodup)
    (id : Uuid) : messages.countP (fun delivery => delivery.id = id) ≤ 1 := by
  have hcount := List.nodup_iff_count.mp hnodup id
  rw [List.count_eq_countP, List.countP_map] at hcount
  refine Nat.le_trans (List.countP_mono_left ?_) hcount
  intro delivery _ hid
  simpa using hid

/-- Every claim that the reaper takes ends. -/
theorem contains_reap (hkeyed : broker.Keyed) {stale : List Delivery}
    (hfound : stale.Subperm broker.underway) (maxAttempts : Nat) (id : Uuid) :
    stale.countP (fun delivery => delivery.id = id) +
        ((broker.reap stale maxAttempts).claimed.contains id).toNat =
      (broker.claimed.contains id).toNat := by
  have hupper := countP_id_le_one (stale_nodup hkeyed hfound) id
  have hget : (broker.reap stale maxAttempts).claimed.get? id =
      if id ∈ stale.map Delivery.id then none else broker.claimed.get? id :=
    SortedMap.get?_eraseAll _ _ _
  by_cases htaken : id ∈ stale.map Delivery.id
  · obtain ⟨delivery, member, rfl⟩ := List.mem_map.mp htaken
    obtain ⟨claim, hclaim, _⟩ := get?_of_underway hkeyed (hfound.subset member)
    have hcount : 0 < stale.countP fun other => other.id = delivery.id :=
      List.countP_pos_iff.mpr ⟨delivery, member, by simp⟩
    simp only [SortedMap.contains, hget, htaken, if_true, hclaim]
    simp only [Option.isSome_none, Option.isSome_some, Bool.toNat_false, Bool.toNat_true]
    omega
  · have hcount : stale.countP (fun delivery => delivery.id = id) = 0 := by
      rw [List.countP_eq_zero]
      intro delivery member hid
      exact htaken (List.mem_map.mpr ⟨delivery, member, by simpa using hid⟩)
    simp only [SortedMap.contains, hget, htaken, if_false, hcount, Nat.zero_add]

/-- Among messages of which one at most is meant, one is meant or none. -/
theorem toNat_any {messages : List Delivery} {meant : Delivery → Bool}
    (hupper : messages.countP meant ≤ 1) :
    (messages.any meant).toNat = messages.countP meant := by
  by_cases hany : messages.any meant = true
  · have hpositive : 0 < messages.countP meant :=
      List.countP_pos_iff.mpr (List.any_eq_true.mp hany)
    rw [hany, Bool.toNat_true]
    omega
  · have hzero : messages.countP meant = 0 := by
      rw [List.countP_eq_zero]
      intro message member hmeant
      exact hany (List.any_eq_true.mpr ⟨message, member, hmeant⟩)
    rw [Bool.not_eq_true] at hany
    rw [hany, hzero, Bool.toNat_false]

theorem copies_publish (new : Uuid) (queue : Queue) (payload : Json) (id : Uuid) :
    (broker.publish new queue payload).copies id =
      broker.copies id + (decide (new = id)).toNat := by
  simp only [copies, publish, List.countP_append, List.countP_singleton]
  by_cases hnew : new = id
  · simp [hnew]
    omega
  · simp [hnew]

theorem copies_claim (hsingle : ∀ id, broker.copies id ≤ 1) (now : Timestamp)
    (queues : List Queue) (id : Uuid) :
    (broker.claim now queues).2.copies id = broker.copies id := by
  have hfirst := broker.claim_first now queues
  generalize broker.claim now queues = claimed at hfirst
  cases hfirst with
  | nothing => rfl
  | @first before after message hline =>
    simp only [copies, hline, SortedMap.contains, SortedMap.get?_insert, List.countP_append,
      List.countP_cons]
    by_cases hid : id = message.id
    · subst hid
      -- The copy in the line is the only one, so the message is not claimed yet.
      have hone := hsingle message.id
      simp only [copies, hline, List.countP_append, List.countP_cons, decide_true, if_true] at hone
      have hunclaimed : (broker.claimed.contains message.id).toNat = 0 := by omega
      simp only [SortedMap.contains] at hunclaimed
      simp [hunclaimed]
      omega
    · simp [hid, Ne.symm hid]

theorem copies_ack (acked id : Uuid) :
    (broker.ack acked).2.copies id +
        (BrokerEvent.removes id (.acknowledged acked (broker.ack acked).1)).toNat =
      broker.copies id := by
  unfold ack
  split
  · rename_i hclaimed
    by_cases hid : id = acked
    · subst hid
      simp [copies, BrokerEvent.removes, SortedMap.contains, SortedMap.get?_erase] at hclaimed ⊢
      simp [hclaimed]
    · simp [copies, BrokerEvent.removes, SortedMap.contains, SortedMap.get?_erase, hid,
        Ne.symm hid]
  · rfl

theorem copies_nack (hkeyed : broker.Keyed) (returned id : Uuid) :
    (broker.nack returned).2.copies id = broker.copies id := by
  unfold nack
  split
  · rfl
  · rename_i claim hclaimed
    have hreturned := hkeyed returned claim hclaimed
    by_cases hid : id = returned
    · subst hid
      simp [copies, SortedMap.contains, SortedMap.get?_erase, hclaimed, hreturned]
    · simp [copies, SortedMap.contains, SortedMap.get?_erase, hid, hreturned, Ne.symm hid]

theorem copies_reap (hkeyed : broker.Keyed) {stale : List Delivery}
    (hfound : stale.Subperm broker.underway) (maxAttempts : Nat) (id : Uuid) :
    (broker.reap stale maxAttempts).copies id +
        (BrokerEvent.removes id (.reaped maxAttempts stale)).toNat =
      broker.copies id := by
  have hended := contains_reap hkeyed hfound maxAttempts id
  have hupper := countP_id_le_one (stale_nodup hkeyed hfound) id
  -- Of the messages taken for stale, those without attempts left are removed.
  have hparts := List.countP_eq_countP_filter_add stale (fun delivery => delivery.id = id)
    fun delivery => maxAttempts ≤ delivery.attempts
  rw [List.countP_filter] at hparts
  have hkept : (fun delivery : Delivery => !decide (maxAttempts ≤ delivery.attempts)) =
      fun delivery => decide (delivery.attempts < maxAttempts) := by
    funext delivery
    rw [← decide_not, decide_eq_decide]
    exact Nat.not_le
  rw [hkept] at hparts
  have hremoved : (BrokerEvent.removes id (.reaped maxAttempts stale)).toNat = _ :=
    toNat_any (Nat.le_trans (Nat.le.intro hparts.symm) hupper)
  have hready : (broker.reap stale maxAttempts).ready = broker.ready ++ _ := rfl
  rw [hremoved]
  simp only [copies, hready, List.countP_append]
  omega

theorem copies_drain (hsingle : ∀ id, broker.copies id ≤ 1) (queue : Queue) (id : Uuid) :
    (broker.drain queue).2.copies id +
        (BrokerEvent.removes id (.drained queue (broker.line queue))).toNat =
      broker.copies id := by
  have hone := hsingle id
  have hparts := List.countP_eq_countP_filter_add broker.ready (fun delivery => delivery.id = id)
    fun delivery => delivery.queue = queue
  have hready : (broker.drain queue).2.ready =
      broker.ready.filter fun delivery => !decide (delivery.queue = queue) := by
    simp [drain]
  have hmeant : (broker.line queue).countP
      (fun delivery => delivery.id = id && delivery.queue = queue) =
      (broker.line queue).countP fun delivery => delivery.id = id := by
    apply List.countP_congr
    intro delivery member
    have hqueue := (List.mem_filter.mp member).2
    rw [hqueue, Bool.and_true]
  have hline : broker.line queue = broker.ready.filter fun delivery => delivery.queue = queue := rfl
  rw [← hready, ← hline] at hparts
  simp only [copies] at hone ⊢
  have hclaimed : (broker.drain queue).2.claimed = broker.claimed := rfl
  have hremoved : (BrokerEvent.removes id (.drained queue (broker.line queue))).toNat = _ :=
    toNat_any (by omega)
  rw [hremoved, hmeant, hclaimed]
  omega

/-- No call makes or loses a copy but by publishing or removing the message. -/
theorem Step.balance (hkeyed : broker.Keyed) (hsingle : ∀ id, broker.copies id ≤ 1)
    (hstep : broker.Step event next) (id : Uuid) :
    next.copies id + (event.removes id).toNat =
      broker.copies id + (event.publishes id).toNat := by
  cases hstep with
  | publish new queue payload => exact copies_publish new queue payload id
  | claim now queues => exact copies_claim hsingle now queues id
  | ack acked => exact copies_ack acked id
  | nack returned => exact copies_nack hkeyed returned id
  | reap maxAttempts hfound => exact copies_reap hkeyed hfound maxAttempts id
  | drain queue => exact copies_drain hsingle queue id
  | wake => rfl

/-! ### What the broker has of a message -/

def Holds (broker : Broker) (delivery : Delivery) : Prop :=
  delivery ∈ broker.ready ∨
    ∃ claim, broker.claimed.get? delivery.id = some claim ∧ claim.delivery = delivery

/-- Where a message comes from that the broker has, or comes upon, with a call. -/
inductive Origin (broker : Broker) (event : BrokerEvent) : Delivery → Prop
  | kept {delivery} (held : broker.Holds delivery) (unclaimed : event.claims delivery.id = false) :
      Origin broker event delivery
  | published {delivery} (call : event = .published delivery.id delivery.queue delivery.payload)
      (untried : delivery.attempts = 0) : Origin broker event delivery
  | claimed {message queues} (held : broker.Holds message)
      (call : event = .claimed queues (some message.again)) : Origin broker event message.again

/-- A claim is older than the call, or was made by it. -/
theorem Step.claimed_origin (hstep : broker.Step event next) {id : Uuid} {claim : Claim}
    (hclaim : next.claimed.get? id = some claim) :
    (broker.claimed.get? id = some claim ∧ event.claims id = false) ∨
      ∃ message ∈ broker.ready, ∃ queues, event = .claimed queues (some message.again) ∧
        id = message.id ∧ claim.delivery = message.again := by
  cases hstep with
  | publish | drain | wake => exact Or.inl ⟨hclaim, rfl⟩
  | claim now queues =>
    have hfirst := broker.claim_first now queues
    generalize broker.claim now queues = claimed at hfirst hclaim
    cases hfirst with
    | nothing => exact Or.inl ⟨hclaim, rfl⟩
    | @first before after message hline =>
      rw [SortedMap.get?_insert] at hclaim
      split at hclaim
      · rename_i hid
        cases hclaim
        exact Or.inr ⟨message, hline ▸ by simp, queues, rfl, hid, rfl⟩
      · rename_i hid
        refine Or.inl ⟨hclaim, ?_⟩
        simpa [BrokerEvent.claims, Delivery.again] using Ne.symm hid
  | ack acked =>
    refine Or.inl ⟨?_, rfl⟩
    unfold Broker.ack at hclaim
    split at hclaim
    · rw [SortedMap.get?_erase] at hclaim
      exact (Option.ite_none_left_eq_some.mp hclaim).2
    · exact hclaim
  | nack returned =>
    refine Or.inl ⟨?_, rfl⟩
    unfold Broker.nack at hclaim
    split at hclaim
    · exact hclaim
    · rw [SortedMap.get?_erase] at hclaim
      exact (Option.ite_none_left_eq_some.mp hclaim).2
  | reap maxAttempts hfound =>
    refine Or.inl ⟨?_, rfl⟩
    rw [Broker.reap, SortedMap.get?_eraseAll] at hclaim
    exact (Option.ite_none_left_eq_some.mp hclaim).2

theorem Step.keyed (hkeyed : broker.Keyed) (hstep : broker.Step event next) : next.Keyed := by
  intro id claim hclaim
  rcases hstep.claimed_origin hclaim with ⟨hold, _⟩ | ⟨message, _, queues, _, rfl, hdelivery⟩
  · exact hkeyed id claim hold
  · rw [hdelivery]
    rfl

theorem Step.ready_origin (hkeyed : broker.Keyed) (hsingle : ∀ id, broker.copies id ≤ 1)
    (hstep : broker.Step event next) {delivery : Delivery} (member : delivery ∈ next.ready) :
    Origin broker event delivery := by
  cases hstep with
  | publish new queue payload =>
    rcases List.mem_append.mp member with hold | hnew
    · exact .kept (Or.inl hold) rfl
    · cases List.mem_singleton.mp hnew
      exact .published rfl rfl
  | claim now queues =>
    have hfirst := broker.claim_first now queues
    generalize broker.claim now queues = claimed at hfirst member
    cases hfirst with
    | nothing => exact .kept (Or.inl member) rfl
    | @first before after message hline =>
      have hold : delivery ∈ broker.ready := by
        rw [hline, List.mem_append, List.mem_cons]
        exact (List.mem_append.mp member).imp_right Or.inr
      refine .kept (Or.inl hold) ?_
      -- The message that is handed out had no second copy in the line.
      have hone := hsingle message.id
      simp only [copies, hline, List.countP_append, List.countP_cons, decide_true,
        if_true] at hone
      have hothers : (before ++ after).countP (fun other => other.id = message.id) = 0 := by
        rw [List.countP_append]
        omega
      have hne := List.countP_eq_zero.mp hothers delivery member
      simpa [BrokerEvent.claims, Delivery.again, eq_comm] using hne
  | ack acked =>
    have hsame : (broker.ack acked).2.ready = broker.ready := by
      unfold Broker.ack
      split <;> rfl
    exact .kept (Or.inl (hsame ▸ member)) rfl
  | nack returned =>
    refine .kept ?_ rfl
    unfold Broker.nack at member
    split at member
    · exact Or.inl member
    · rename_i claim hclaim
      rcases List.mem_append.mp member with hold | hreturned
      · exact Or.inl hold
      · cases List.mem_singleton.mp hreturned
        exact Or.inr ⟨claim, hkeyed returned claim hclaim ▸ hclaim, rfl⟩
  | reap maxAttempts hfound =>
    refine .kept ?_ rfl
    rcases List.mem_append.mp member with hold | hreturned
    · exact Or.inl hold
    · have hstale := hfound.subset (List.mem_filter.mp hreturned).1
      exact Or.inr (get?_of_underway hkeyed hstale)
  | drain queue => exact .kept (Or.inl (List.mem_filter.mp member).1) rfl
  | wake => exact .kept (Or.inl member) rfl

theorem Step.holds_origin (hkeyed : broker.Keyed) (hsingle : ∀ id, broker.copies id ≤ 1)
    (hstep : broker.Step event next) {delivery : Delivery} (hholds : next.Holds delivery) :
    Origin broker event delivery := by
  rcases hholds with hready | ⟨claim, hclaim, rfl⟩
  · exact hstep.ready_origin hkeyed hsingle hready
  · rcases hstep.claimed_origin hclaim with
      ⟨hold, hunclaimed⟩ | ⟨message, hmem, queues, hcall, _, hdelivery⟩
    · exact .kept (Or.inr ⟨claim, hold, rfl⟩) hunclaimed
    · rw [hdelivery]
      exact .claimed (Or.inl hmem) hcall

theorem Step.deliveries_origin (hkeyed : broker.Keyed) (hstep : broker.Step event next)
    {delivery : Delivery} (member : delivery ∈ event.deliveries) :
    Origin broker event delivery := by
  cases hstep with
  | publish | ack | nack | wake => cases member
  | claim now queues =>
    have hfirst := broker.claim_first now queues
    generalize broker.claim now queues = claimed at hfirst member
    cases hfirst with
    | nothing => cases member
    | @first before after message hline =>
      cases List.mem_singleton.mp member
      exact .claimed (Or.inl (hline ▸ by simp)) rfl
  | reap maxAttempts hfound =>
    exact .kept (Or.inr (get?_of_underway hkeyed (hfound.subset member))) rfl
  | drain queue => exact .kept (Or.inl (List.mem_filter.mp member).1) rfl

/-! ### The account of a run -/

/-- The broker agrees with its history. A message has been published once at most, and each copy
that was published is there, ready or claimed, or has been removed by one call. What the broker has
of a message, and what its calls have come upon, is as the history up to there has it. -/
structure Accounts (history : List BrokerEvent) (broker : Broker) : Prop where
  once : ∀ id, history.countP (BrokerEvent.publishes id) ≤ 1
  conserved : ∀ id, broker.ready.countP (fun delivery => delivery.id = id) +
      (broker.claimed.contains id).toNat + history.countP (BrokerEvent.removes id) =
    history.countP (BrokerEvent.publishes id)
  keyed : ∀ id claim, broker.claimed.get? id = some claim → claim.delivery.id = id
  recorded : ∀ delivery, broker.Holds delivery → delivery.Recorded history
  past : ∀ before event after, history = before ++ event :: after →
    ∀ delivery ∈ event.deliveries, delivery.Recorded (before ++ [event])

theorem Accounts.single (h : Accounts history broker) (id : Uuid) : broker.copies id ≤ 1 := by
  have hconserved := h.conserved id
  have honce := h.once id
  unfold copies
  omega

/-- What a call has come upon was published before. -/
theorem Accounts.published (h : Accounts history broker) (member : event ∈ history)
    {delivery : Delivery} (hmem : delivery ∈ event.deliveries) :
    .published delivery.id delivery.queue delivery.payload ∈ history := by
  obtain ⟨before, after, rfl⟩ := List.append_of_mem member
  have hpublished := (h.past before event after rfl delivery hmem).published
  rw [List.append_cons]
  exact List.mem_append_left _ hpublished

/-- What has not been published has not been claimed. -/
theorem Accounts.unclaimed (h : Accounts history broker) {id : Uuid}
    (hunpublished : history.countP (BrokerEvent.publishes id) = 0) :
    history.countP (BrokerEvent.claims id) = 0 := by
  rw [List.countP_eq_zero] at hunpublished ⊢
  intro event member hclaims
  obtain ⟨queues, delivery, rfl, rfl⟩ := BrokerEvent.claims_iff.mp hclaims
  exact hunpublished _ (h.published member (List.mem_singleton_self delivery)) (decide_eq_true rfl)

/-- Two publications under one identifier are the same. -/
theorem Accounts.published_unique (h : Accounts history broker) {id : Uuid}
    {queue queue' : Queue} {payload payload' : Json}
    (hfirst : .published id queue payload ∈ history)
    (hsecond : .published id queue' payload' ∈ history) : queue = queue' ∧ payload = payload' := by
  have honce := h.once id
  rw [List.countP_eq_length_filter] at honce
  have hpublishes (queue : Queue) (payload : Json) :
      (BrokerEvent.published id queue payload).publishes id = true := by
    simp [BrokerEvent.publishes]
  have hfirst := List.mem_filter.mpr ⟨hfirst, hpublishes queue payload⟩
  have hsecond := List.mem_filter.mpr ⟨hsecond, hpublishes queue' payload'⟩
  generalize history.filter (BrokerEvent.publishes id) = publications at *
  match publications with
  | [] => cases hfirst
  | [only] =>
    cases List.mem_singleton.mp hfirst
    cases List.mem_singleton.mp hsecond
    exact ⟨rfl, rfl⟩
  | _ :: _ :: _ => simp at honce

theorem Origin.recorded (haccounts : Accounts history broker) (hfresh : event.Fresh history)
    {delivery : Delivery} (h : Origin broker event delivery) :
    delivery.Recorded (history ++ [event]) := by
  cases h with
  | kept hholds hunclaimed =>
    obtain ⟨hpublished, hattempts⟩ := haccounts.recorded delivery hholds
    refine ⟨List.mem_append_left _ hpublished, ?_⟩
    simp [hattempts, List.countP_append, hunclaimed]
  | published hcall huntried =>
    refine ⟨List.mem_append_right _ (List.mem_singleton.mpr hcall.symm), ?_⟩
    have hunpublished := hfresh delivery.id (by simp [hcall, BrokerEvent.publishes])
    rw [List.countP_append, haccounts.unclaimed hunpublished, hcall, huntried]
    rfl
  | @claimed message queues hholds hcall =>
    obtain ⟨hpublished, hattempts⟩ := haccounts.recorded message hholds
    refine ⟨List.mem_append_left _ hpublished, ?_⟩
    simp [hcall, Delivery.again, hattempts, List.countP_append, BrokerEvent.claims]

theorem Accounts.empty : Accounts [] empty where
  once _ := Nat.zero_le 1
  conserved _ := rfl
  keyed _ _ h := by cases h
  recorded _ h := by
    rcases h with hready | ⟨_, hclaimed, _⟩
    · cases hready
    · cases hclaimed
  past before _ _ h := by cases before <;> cases h

theorem Accounts.step (h : Accounts history broker) (hfresh : event.Fresh history)
    (hstep : broker.Step event next) : Accounts (history ++ [event]) next where
  once id := by
    have honce := h.once id
    rw [List.countP_append, List.countP_singleton]
    split
    · rename_i hpublishes
      exact Nat.le_of_eq (by rw [hfresh id hpublishes])
    · omega
  conserved id := by
    have hconserved := h.conserved id
    have hbalance := hstep.balance h.keyed h.single id
    simp only [copies] at hbalance
    simp only [List.countP_append, List.countP_singleton]
    cases hremoves : event.removes id <;> cases hpublishes : event.publishes id <;>
      simp [hremoves, hpublishes] at hbalance ⊢ <;> omega
  keyed := hstep.keyed h.keyed
  recorded _ hholds := (hstep.holds_origin h.keyed h.single hholds).recorded h hfresh
  past before other after hsplit delivery member := by
    rcases List.eq_nil_or_concat after with rfl | ⟨earlier, last, rfl⟩
    · obtain ⟨rfl, hevent⟩ := List.append_inj' hsplit rfl
      cases hevent
      exact (hstep.deliveries_origin h.keyed member).recorded h hfresh
    · rw [List.concat_eq_append, ← List.cons_append, ← List.append_assoc] at hsplit
      obtain ⟨hhistory, _⟩ := List.append_inj' hsplit rfl
      exact h.past before other earlier hhistory delivery member

theorem Ran.accounts (h : Ran history broker) : Accounts history broker := by
  induction h with
  | start => exact .empty
  | step _ hfresh hstep ih => exact ih.step hfresh hstep

/-- The broker neither loses a message nor has it twice, whatever it has been called with. A claim
hands out the first message that is asked for and leaves the others in their order, a drain
answers with what it takes from its queue, and a call that is refused changes nothing. -/
theorem Ran.conserves (h : Ran history broker) :
    Accounts history broker ∧
      (∀ now queues, broker.ClaimsFirst now queues (broker.claim now queues)) ∧
      (∀ queue, broker.Empties queue (broker.drain queue)) ∧
      (∀ id error, (broker.ack id).1 = .error error → (broker.ack id).2 = broker) ∧
      ∀ id error, (broker.nack id).1 = .error error → (broker.nack id).2 = broker :=
  ⟨h.accounts, broker.claim_first, broker.drain_empties, fun _ _ => ack_refused,
    fun _ _ => nack_refused⟩

def handedOut : Delivery :=
  { id := Uuid.generated 0, queue := .saFinish, payload := .null, attempts := 1 }

/-- It was found stale by a reaper that allows one attempt. -/
def spentHistory : List BrokerEvent :=
  [.published handedOut.id .saFinish .null, .claimed [.saFinish] (some handedOut),
    .reaped 1 [handedOut]]

def spent : Broker :=
  ((empty.publish handedOut.id .saFinish .null).claim ⟨0, 0⟩ [.saFinish]).2.reap [handedOut] 1

theorem ran_spent : Ran spentHistory spent := by
  have hpublished : Ran (spentHistory.take 1) _ :=
    .step .start (fun _ _ => rfl) (.publish handedOut.id .saFinish .null)
  have hclaimed : Ran (spentHistory.take 2) _ :=
    .step hpublished (fun _ h => by cases h) (.claim ⟨0, 0⟩ [.saFinish])
  exact .step hclaimed (fun _ h => by cases h) (.reap 1 (List.Subperm.refl _))

/-- The broker has removed the message once, and has no copy of it. -/
theorem spent_conserved :
    spentHistory.countP (BrokerEvent.removes handedOut.id) = 1 ∧ Accounts spentHistory spent :=
  ⟨by decide +kernel, ran_spent.conserves.1⟩

end Broker

end ScanFlow
