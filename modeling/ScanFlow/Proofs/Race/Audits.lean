import ScanFlow.Proofs.Lifecycle.Reach
import ScanFlow.Proofs.Race.Decisions

/-!
Decisions about the findings of one task that are recorded at the same time.

Whoever records a decision counts the decisions of the task next, and then writes their number to
the task. Between the two, others may record decisions as well; and whoever writes last writes the
number that was right when it counted. The number is right in the end if no decision that comes
in between can change it.
-/

namespace ScanFlow

namespace System

open Decision Orchestrator Program

variable {system : System} {taskId : Uuid} {task : Task} {decisions : List Decision}

def reviewed (system : System) (taskId : Uuid) (decisions : List Decision) : Flight :=
  .launch system (decisions.map (Decision.program taskId))

/-- If every decision that is taken leads to the same findings with a decision, all of them end
with these findings. -/
theorem reviewed_landed {full : Finset Uuid} (hindexed : system.store.Indexed)
    (htask : system.store.tasks.get? taskId = some task)
    (hfull : ∀ decision ∈ decisions, decision.isTaken system.store taskId = true →
      insert decision.findingId (system.store.audited taskId) = full)
    {schedule : List (Nat × Environment)}
    (hlanded : ((system.reviewed taskId decisions).fly schedule).landed = true) :
    ∃ knowns, Reviewing system.store taskId task.auditCount
        (∃ decision ∈ decisions, decision.isTaken system.store taskId = true) full
        ((system.reviewed taskId decisions).fly schedule).system.store knowns ∧
      ∀ known ∈ knowns, known = .refused ∨ known = .written := by
  have hbound : (system.reviewed taskId decisions).Bound (deciding system.store taskId)
      (fun _ met knowns => Reviewing system.store taskId task.auditCount
        (∃ decision ∈ decisions, decision.isTaken system.store taskId = true) full met.store knowns)
      (fun known => known = .refused ∨ known = .written)
      (decisions.map (Decision.initial system.store taskId)) := by
    refine ⟨.of_launch htask hfull, by simp [reviewed, Flight.launch], ?_⟩
    intro index program known hprogram hknown
    simp only [reviewed, Flight.launch] at hprogram
    rw [List.getElem?_map] at hprogram hknown
    obtain ⟨decision, hdecision, rfl⟩ := Option.map_eq_some_iff.mp hprogram
    rw [hdecision, Option.map_some, Option.some.injEq] at hknown
    subst hknown
    change Honors _ (_ >>= _) _ _
    rw [honors_bind]
    apply honors_mono (auditFinding_honors hindexed decision)
    intro outcome learnt hends
    cases outcome with
    | ok _ => exact hends
    | error e => exact hends
  obtain ⟨knowns, hlater⟩ := hbound.fly (deciding_upholds _ _ _ _ _) schedule
  exact ⟨knowns, hlater.pool, hlater.landed hlanded⟩

/-! ### A count that is out of date -/

/-- A decision can be replaced by such calls, but not taken back. -/
theorem audited_subset_slight {α : Type} {call : Call α} (hslight : call.Slight)
    (env : Environment) (taskId : Uuid) (system : System) :
    system.store.audited taskId ⊆ (call.perform env system).2.store.audited taskId := by
  cases call with
  | clock | reserve | blobExists | blobUrl => exact subset_rfl
  | publish queue payload =>
    simp only [Call.perform, System.publish]
    split
    · exact subset_rfl
    · exact subset_rfl
  | store operation =>
    have hfindings := (operation.perform_groups env.now system.store).2
    cases operation with
    | setAudit id audit => exact Store.audited_subset_setAudit system.store id audit taskId
    | createWorkflow | advance | finish | setArtifact | bindAnalysis | moveSa | moveMl
    | claimMerge | storeSummary | insertGroups | deleteGroups | registerCompiled =>
      exact hslight.elim
    | _ =>
      exact (Store.audited_congr hfindings taskId).ge

/-- What has been decided stays decided while others decide. -/
theorem audited_fly {flight : Flight} {marks : Finset Uuid}
    (hslight : ∀ program ∈ flight.programs, program.Only Call.Slight)
    (hmarks : marks ⊆ flight.system.store.audited taskId) (schedule : List (Nat × Environment)) :
    marks ⊆ (flight.fly schedule).system.store.audited taskId :=
  (flight.fly_only (fun system => marks ⊆ system.store.audited taskId)
    (fun _ env system hcall h => h.trans (audited_subset_slight hcall env taskId system))
    hslight hmarks schedule).2

/-- A number that is written to the task is not right if there are more decisions. -/
theorem outdated {store : Store} {marks : Finset Uuid} {n : Nat} {now : Timestamp}
    (hmarks : marks ⊆ store.audited taskId) (hless : n < marks.card) :
    ¬ ((Store.Operation.setAuditCount taskId n).perform now store).2.CountsAudits taskId := by
  rintro ⟨task, hstored, hcount⟩
  have hfindings := ((Store.Operation.setAuditCount taskId n).perform_groups now store).2
  rw [Store.audited_congr hfindings] at hcount
  rw [Store.Operation.perform_taskChange rfl, Store.get?_changeTask, if_pos rfl] at hstored
  obtain ⟨before, _, rfl⟩ := Option.map_eq_some_iff.mp hstored
  have hnumber : n = (store.audited taskId).card := hcount
  have hcard := Finset.card_le_card hmarks
  omega

def decided (system : System) (decision : Decision) (moment : Timestamp) : System :=
  { system with
    store := (system.store.setAudit decision.findingId (decision.request.audit moment)).2 }

theorem decided_indexed (hindexed : system.store.Indexed) (decision : Decision)
    (moment : Timestamp) : (system.decided decision moment).store.Indexed :=
  hindexed.perform moment (.setAudit decision.findingId (decision.request.audit moment))

theorem decided_audited {decision : Decision}
    (htaken : decision.isTaken system.store taskId = true) (moment : Timestamp) :
    (system.decided decision moment).store.audited taskId =
      insert decision.findingId (system.store.audited taskId) := by
  obtain ⟨_, finding, hstored, hown⟩ := isTaken_iff.mp htaken
  exact Store.audited_setAudit hstored hown _

/-- Whether one decision is taken does not depend on another one. -/
theorem decided_isTaken (system : System) (decision other : Decision) (moment : Timestamp) :
    other.isTaken (system.decided decision moment).store taskId =
      other.isTaken system.store taskId :=
  isTaken_congr (setAudit_same system.store decision.findingId _) taskId other

/-- What is left to a decision that has been counted. -/
def writing (taskId : Uuid) (n : Nat) : Program Unit := do
  let _ ← Program.storeOr (.setAuditCount taskId n)

theorem writing_solo (taskId : Uuid) (n : Nat) (env : Environment) (system : System) :
    ∃ outcome, (writing taskId n).solo env 1 system =
      (.done outcome, { system with
        store := ((Store.Operation.setAuditCount taskId n).perform env.now system.store).2 }) := by
  rw [writing, Program.storeOr, Program.bind_assoc, Program.solo_ask]
  change ∃ outcome, (_, _) = (_, _)
  cases ((Call.store (.setAuditCount taskId n)).perform env system).1 with
  | ok _ => exact ⟨_, rfl⟩
  | error e => exact ⟨_, rfl⟩

/-- A decision is recorded and counted in four calls; what is left is to write the number. -/
theorem decision_solo (hindexed : system.store.Indexed) {decision : Decision}
    (htaken : decision.isTaken system.store taskId = true) (env : Environment) :
    (decision.program taskId).solo env 4 system =
      (writing taskId ((system.decided decision env.now).store.countAudited taskId),
        system.decided decision env.now) := by
  obtain ⟨hfaults, finding, hstored, hown⟩ := isTaken_iff.mp htaken
  have hid := hindexed _ _ hstored
  have hanswer : (system.store.setAudit decision.findingId
      (decision.request.audit env.now)).1 = true := by
    rw [Store.setAudit_answer, hstored]
    rfl
  have hfind : (Call.store (.findFinding decision.findingId)).perform env system =
      (some finding, system) := by
    simp [Call.perform, Store.Operation.perform, hstored]
  unfold Decision.program Orchestrator.auditFinding
  rw [hfaults]
  change Program.solo env 4 (Program.require _ _ >>= _ >>= fun _ => pure ()) system = _
  rw [Program.bind_assoc, Program.require, Program.bind_assoc, Program.store, Program.solo_ask,
    hfind]
  change Program.solo env 3 (ite _ _ _ >>= _) system = _
  rw [if_neg (not_not_intro hown), Program.bind_assoc, Program.solo_clock]
  dsimp only
  rw [Program.bind_assoc, Program.store, Program.solo_ask, hid]
  change Program.solo env 1 (ite ((system.store.setAudit _ _).1 = true) _ _ >>= _)
    (system.decided decision env.now) = _
  rw [if_pos hanswer, Program.bind_assoc, Program.store, Program.solo_ask]
  change (Program.storeOr _ >>= _ >>= _, system.decided decision env.now) = _
  rw [Program.bind_assoc]
  rfl

/-- Whoever decides about findings writes nothing else. -/
theorem reviewed_slight (system : System) (taskId : Uuid) (decisions : List Decision) :
    ∀ program ∈ (system.reviewed taskId decisions).programs, program.Only Call.Slight := by
  intro program hmember
  obtain ⟨decision, _, rfl⟩ := List.mem_map.mp hmember
  exact only_bind (auditFinding_slight taskId _ _) fun _ => trivial

/-- A decision that is held back after it has been counted writes a number that is out of date, if
another one has been recorded meanwhile. -/
theorem stale_count (hindexed : system.store.Indexed) {i j : Nat} {first second : Decision}
    (hfirst : decisions[i]? = some first) (hsecond : decisions[j]? = some second)
    (htakenFirst : first.isTaken system.store taskId = true)
    (htakenSecond : second.isTaken system.store taskId = true)
    (hne : first.findingId ≠ second.findingId)
    (hnew : first.findingId ∉ system.store.audited taskId) :
    ∃ schedule, ((system.reviewed taskId decisions).fly schedule).landed = true ∧
      ¬ ((system.reviewed taskId decisions).fly schedule).system.store.CountsAudits taskId := by
  have hprogram : ∀ {index : Nat} {decision : Decision}, decisions[index]? = some decision →
      (system.reviewed taskId decisions).programs[index]? = some (decision.program taskId) := by
    intro index decision hdecision
    simp [reviewed, Flight.launch, hdecision]
  have hapart : j ≠ i := by
    rintro rfl
    rw [hfirst, Option.some.injEq] at hsecond
    exact hne (congrArg Decision.findingId hsecond)
  -- The second decision is counted, and held back; then the first one is recorded.
  have htakenLater : first.isTaken (system.decided second quietWorld.now).store taskId = true :=
    (decided_isTaken system second first _).trans htakenFirst
  have hcounted := decision_solo hindexed htakenSecond quietWorld
  have hrecorded := decision_solo (decided_indexed hindexed second _) htakenLater quietWorld
  obtain ⟨between, ⟨opening, rfl⟩, hbetween, hheld, _⟩ :=
    Flight.leadsTo_pair hapart (hprogram hsecond) (hprogram hfirst) hcounted hrecorded
  have hslight := (Flight.fly_only (fun _ => True) (fun _ _ _ _ _ => trivial)
    (reviewed_slight system taskId decisions) trivial opening).1
  -- All others come to their ends before it is written.
  obtain ⟨_, _, ⟨middle, rfl⟩, ⟨closing, rfl⟩, hlanded, hsystem⟩ := Flight.exists_landing_last hheld
    (writing_solo taskId ((system.decided second quietWorld.now).store.countAudited taskId)
      quietWorld)
  refine ⟨opening ++ (middle ++ closing), ?_, ?_⟩
  · rw [Flight.fly_append, Flight.fly_append]
    exact hlanded
  · rw [Flight.fly_append, Flight.fly_append, hsystem]
    have hmarks : insert first.findingId (insert second.findingId (system.store.audited taskId)) ⊆
        ((system.reviewed taskId decisions).fly opening).system.store.audited taskId := by
      rw [hbetween, decided_audited htakenLater, decided_audited htakenSecond]
    have hmore : first.findingId ∉ insert second.findingId (system.store.audited taskId) := by
      rw [Finset.mem_insert, not_or]
      exact ⟨hne, hnew⟩
    apply outdated (audited_fly hslight hmarks middle)
    rw [Store.countAudited_eq_card, decided_audited htakenSecond,
      Finset.card_insert_of_notMem hmore]
    exact Nat.lt_succ_self _

/-- Something will be counted, or there is nothing to correct; and of two decisions about different
findings, neither is the first one about its finding. -/
structure Countable (store : Store) (taskId : Uuid) (decisions : List Decision) : Prop where
  begun : (∃ decision ∈ decisions, decision.isTaken store taskId = true) ∨
    store.CountsAudits taskId
  repeated : ∀ first ∈ decisions, ∀ second ∈ decisions, first.isTaken store taskId = true →
    second.isTaken store taskId = true → first.findingId ≠ second.findingId →
      first.findingId ∈ store.audited taskId

/-- Decisions that are all refused leave the number as it is. -/
theorem counts_iff_of_refused (hindexed : system.store.Indexed)
    (htask : system.store.tasks.get? taskId = some task)
    (hnone : ¬ ∃ decision ∈ decisions, decision.isTaken system.store taskId = true)
    {schedule : List (Nat × Environment)}
    (hlanded : ((system.reviewed taskId decisions).fly schedule).landed = true) :
    ((system.reviewed taskId decisions).fly schedule).system.store.CountsAudits taskId ↔
      system.store.CountsAudits taskId := by
  have hfull : ∀ decision ∈ decisions, decision.isTaken system.store taskId = true →
      insert decision.findingId (system.store.audited taskId) = ∅ :=
    fun decision hmember htaken => absurd ⟨decision, hmember, htaken⟩ hnone
  obtain ⟨knowns, hreviewed, _⟩ := reviewed_landed hindexed htask hfull hlanded
  obtain ⟨haudited, after, hafter, hcount⟩ := hreviewed.unchanged hnone
  unfold Store.CountsAudits
  rw [haudited, hafter, htask]
  simp [hcount]

/-- The decisions that are taken lead to the same findings with a decision, if none of them comes
in between that is new. -/
theorem insert_same {store : Store} {decision other : Decision}
    (h : Countable store taskId decisions) (hmember : decision ∈ decisions)
    (hother : other ∈ decisions) (htaken : decision.isTaken store taskId = true)
    (htakenOther : other.isTaken store taskId = true) :
    insert other.findingId (store.audited taskId) =
      insert decision.findingId (store.audited taskId) := by
  by_cases hsame : other.findingId = decision.findingId
  · rw [hsame]
  · rw [Finset.insert_eq_of_mem (h.repeated other hother decision hmember htakenOther htaken hsame),
      Finset.insert_eq_of_mem
        (h.repeated decision hmember other hother htaken htakenOther (Ne.symm hsame))]

/-- Any number of decisions about the findings of a task may be recorded at once. In every order of
their calls the task ends with the number of its findings that carry a decision, if and only if
something is counted at all, or was right before, and no two decisions are about different findings
one of which has not been decided about yet. -/
theorem audits_counted_iff {history : List StoreEvent}
    (hran : Store.empty.Ran history system.store)
    (htask : system.store.tasks.get? taskId = some task) (decisions : List Decision) :
    (∀ schedule, ((system.reviewed taskId decisions).fly schedule).landed = true →
      ((system.reviewed taskId decisions).fly schedule).system.store.CountsAudits taskId) ↔
        Countable system.store taskId decisions := by
  have hindexed := hran.indexed
  constructor
  · intro hcounts
    refine ⟨?_, ?_⟩
    · by_cases htaken : ∃ decision ∈ decisions, decision.isTaken system.store taskId = true
      · exact Or.inl htaken
      · obtain ⟨schedule, hlanded⟩ := (system.reviewed taskId decisions).exists_landing quietWorld
        exact Or.inr
          ((counts_iff_of_refused hindexed htask htaken hlanded).mp (hcounts schedule hlanded))
    · intro first hfirst second hsecond htakenFirst htakenSecond hne
      obtain ⟨i, hi⟩ := List.mem_iff_getElem?.mp hfirst
      obtain ⟨j, hj⟩ := List.mem_iff_getElem?.mp hsecond
      by_contra hnew
      obtain ⟨schedule, hlanded, hwrong⟩ :=
        stale_count hindexed hi hj htakenFirst htakenSecond hne hnew
      exact hwrong (hcounts schedule hlanded)
  · intro hcountable schedule hlanded
    by_cases htaken : ∃ decision ∈ decisions, decision.isTaken system.store taskId = true
    · obtain ⟨decision, hmember, hfirst⟩ := id htaken
      obtain ⟨knowns, hreviewed, hends⟩ := reviewed_landed hindexed htask
        (fun other hother htakenOther =>
          insert_same hcountable hmember hother hfirst htakenOther) hlanded
      exact hreviewed.counts hends htaken
    · exact (counts_iff_of_refused hindexed htask htaken hlanded).mpr
        (hcountable.begun.resolve_left htaken)

/-! ### Two reviewers -/

def foundTwo : SaFinished :=
  { workflowId := Uuid.generated 3, taskId := Uuid.generated 2, success := true
    result := some (SortedMap.ofList [("command-injection",
      { ruleName := "Command Injection", ruleCwe := "78", ruleCategory := "injection"
        ruleLevel := .high
        findings := [⟨"readLine", "exec", [{ file := "Shop.java", line := 7 }]⟩,
          ⟨"readLine", "eval", [{ file := "Cart.java", line := 9 }]⟩] })]) }

def foundScan : System :=
  ((smallOrchestrator.process (.sa foundTwo)).run quietWorld (compiled .compileSa)).2

theorem reaches_foundScan : Reaches smallOrchestrator .empty foundScan :=
  .step (reaches_compiled .compileSa)
    (.process (show Completion.parse .saFinish foundTwo.toJson = .ok (.sa foundTwo) from rfl)
      (runs_quietly _ _))

def confirming (findingId : Uuid) : Decision :=
  { findingId, request := { handleType := .confirmed, auditLevel := .mandatory, memo := "" } }

def dismissing (findingId : Uuid) : Decision :=
  { findingId, request := { handleType := .falsePositive, auditLevel := .mandatory, memo := "" } }

/-- The first decision is held back after it has been counted, until the second one is done. -/
def heldBack : List (Nat × Environment) :=
  (List.replicate 4 0 ++ List.replicate 5 1 ++ [0]).map fun index => (index, quietWorld)

/-- Two decisions about one finding are counted as one, whatever the order of calls. -/
theorem replaced_audit_counted :
    (∀ schedule, ((foundScan.reviewed (Uuid.generated 2) [confirming (Uuid.generated 8),
        dismissing (Uuid.generated 8)]).fly schedule).landed = true →
      ((foundScan.reviewed (Uuid.generated 2) [confirming (Uuid.generated 8),
        dismissing (Uuid.generated 8)]).fly schedule).system.store.CountsAudits
          (Uuid.generated 2)) ∧
      (((foundScan.reviewed (Uuid.generated 2) [confirming (Uuid.generated 8),
        dismissing (Uuid.generated 8)]).fly heldBack).system.store.tasks.get?
          (Uuid.generated 2)).map Task.auditCount = some 1 := by
  have hknown : (foundScan.store.tasks.get? (Uuid.generated 2)).isSome := by decide +kernel
  obtain ⟨task, htask⟩ := Option.isSome_iff_exists.mp hknown
  obtain ⟨_, hran⟩ := reaches_foundScan.ran
  have hsame : ∀ decision ∈ [confirming (Uuid.generated 8), dismissing (Uuid.generated 8)],
      decision.findingId = Uuid.generated 8 := by
    intro decision hmember
    rcases List.mem_cons.mp hmember with rfl | hmember
    · rfl
    · rw [List.mem_singleton.mp hmember]
      rfl
  refine ⟨(audits_counted_iff hran htask _).mpr ⟨Or.inl ⟨_, List.mem_cons_self, ?_⟩, ?_⟩, ?_⟩
  · decide +kernel
  · intro first hfirst second hsecond _ _ hne
    exact absurd ((hsame first hfirst).trans (hsame second hsecond).symm) hne
  · decide +kernel

def overtakenReview : Flight :=
  (foundScan.reviewed (Uuid.generated 2)
    [confirming (Uuid.generated 8), confirming (Uuid.generated 9)]).fly heldBack

/-- Two findings carry a decision, and their task ends with one. -/
theorem audit_not_counted :
    Reaches smallOrchestrator .empty foundScan ∧ overtakenReview.landed = true ∧
      (overtakenReview.system.store.audited (Uuid.generated 2)).card = 2 ∧
      (overtakenReview.system.store.tasks.get? (Uuid.generated 2)).map Task.auditCount = some 1 ∧
      ¬ overtakenReview.system.store.CountsAudits (Uuid.generated 2) := by
  have htwo : (overtakenReview.system.store.audited (Uuid.generated 2)).card = 2 := by
    rw [← Store.countAudited_eq_card]
    decide +kernel
  have hone : (overtakenReview.system.store.tasks.get? (Uuid.generated 2)).map Task.auditCount =
      some 1 := by
    decide +kernel
  refine ⟨reaches_foundScan, by decide +kernel, htwo, hone, ?_⟩
  rintro ⟨task, hstored, hcount⟩
  rw [hstored, Option.map_some, hcount, htwo] at hone
  cases hone

end System

end ScanFlow
