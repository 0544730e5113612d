import ScanFlow.Proofs.Order.Answered
import ScanFlow.Proofs.Order.Filed
import ScanFlow.Proofs.Store.History

/-!
What is stored under new numbers, and which code a workflow is about.

A service that stores findings or a file takes numbers for them first, so a number that is left
names neither. A workflow and its task are created with the same code, and neither is ever given
another one.
-/

namespace ScanFlow

/-- The numbers that are left are the identifiers of no findings and of no files. -/
structure System.Unspent (system : System) : Prop where
  findings : ∀ n, system.nextNumber ≤ n →
    system.store.findings.get? (Uuid.generated n) = none
  files : ∀ n, system.nextNumber ≤ n → system.store.files.get? (Uuid.generated n) = none

/-- Moreover, every workflow has its task, and both are about one code. -/
structure System.Stocked (system : System) : Prop extends system.Unspent where
  keyed : system.store.Keyed
  coded : ∀ id workflow, system.store.workflows.get? id = some workflow →
    ∃ task, system.store.tasks.get? workflow.taskId = some task ∧ task.codeId = workflow.codeId

/-- A program that knows `known` numbers to be taken stores findings and files under them only. -/
def stocking : Pact Nat where
  holds known system := known ≤ system.nextNumber ∧ system.Stocked
  grants call answer known learnt :=
    match call, answer with
    | .reserve count, first => learnt = known ∨ learnt = first + count
    | .store (.createWorkflow workflow task), _ =>
      learnt = known ∧ workflow.taskId = task.id ∧ workflow.codeId = task.codeId
    | .store (.insertGroups _ reports), _ =>
      learnt = known ∧ ∀ finding ∈ reports.flatMap GroupReport.findings,
        ∃ n, n < known ∧ finding.id = Uuid.generated n
    | .store (.createCode _ file), _ => learnt = known ∧ ∃ n, n < known ∧ file.id = Uuid.generated n
    | .store (.registerCompiled _ file), _ =>
      learnt = known ∧ ∃ n, n < known ∧ file.id = Uuid.generated n
    | _, _ => learnt = known

def Call.Frugal {α : Type} (call : Call α) : Prop :=
  match call with
  | .store (.createWorkflow workflow task) =>
    workflow.taskId = task.id ∧ workflow.codeId = task.codeId
  | .store (.insertGroups _ _) | .store (.createCode _ _) | .store (.registerCompiled _ _) => False
  | _ => True

theorem Call.Frugal.grants {α : Type} {call : Call α} (hfrugal : call.Frugal) (answer : α)
    (known : Nat) : stocking.grants call answer known known := by
  cases call with
  | store operation =>
    cases operation with
    | createWorkflow => exact ⟨rfl, hfrugal⟩
    | insertGroups | createCode | registerCompiled => exact hfrugal.elim
    | _ => exact rfl
  | reserve count => exact Or.inl rfl
  | _ => exact rfl

/-! ### Every call keeps the stock -/

namespace System.Stocked

variable {α : Type} {system next : System} {operation : Store.Operation α} {now : Timestamp}
  {known learnt : Nat}

theorem onFindings (hstocked : system.Stocked) (hknown : known ≤ system.nextNumber)
    {answer : α} (hgrants : stocking.grants (.store operation) answer known learnt) (n : Nat)
    (hleft : system.nextNumber ≤ n) :
    (operation.onFindings system.store.groups system.store.findings).get? (Uuid.generated n) =
      none := by
  have hnone := hstocked.findings n hleft
  cases operation with
  | insertGroups taskId reports =>
    simp only [Store.Operation.onFindings]
    split
    · rw [SortedMap.get?_foldl_insert_of_not_mem Finding.id (fun finding => finding), hnone]
      intro finding member heq
      obtain ⟨m, hless, hid⟩ := hgrants.2 finding member
      have hsame : m = n := Uuid.generated_injective (hid.symm.trans heq)
      omega
    · exact hnone
  | deleteGroups taskId groupIds =>
    simp only [Store.Operation.onFindings, SortedMap.get?_eraseAll]
    split
    · rfl
    · exact hnone
  | setAudit id audit =>
    simp only [Store.Operation.onFindings]
    cases hfound : system.store.findings.get? id with
    | none => exact hnone
    | some finding =>
      have hother : Uuid.generated n ≠ id := by
        rintro rfl
        cases hnone.symm.trans hfound
      exact (SortedMap.get?_insert_of_ne _ _ _ hother).trans hnone
  | _ => exact hnone

theorem onFiles (hstocked : system.Stocked) (hknown : known ≤ system.nextNumber)
    {answer : α} (hgrants : stocking.grants (.store operation) answer known learnt) (n : Nat)
    (hleft : system.nextNumber ≤ n) :
    (operation.perform now system.store).2.files.get? (Uuid.generated n) = none := by
  have hnone := hstocked.files n hleft
  have hother : ∀ file : StoredFile, (∃ m, m < known ∧ file.id = Uuid.generated m) →
      (system.store.files.insert file.id file).get? (Uuid.generated n) = none := by
    rintro file ⟨m, hless, hid⟩
    refine (SortedMap.get?_insert_of_ne _ _ _ ?_).trans hnone
    intro heq
    have hsame : n = m := Uuid.generated_injective (heq.trans hid)
    omega
  have hsame : operation.Calm →
      (operation.perform now system.store).2.files.get? (Uuid.generated n) = none := by
    intro hcalm
    have hframe := hcalm.frame now system
    simp only [System.frame, Prod.mk.injEq] at hframe
    rw [hframe.2.2.2.2, hnone]
  cases operation with
  | createCode code file => exact hother file hgrants.2
  | registerCompiled codeId file =>
    simp only [Store.Operation.perform, Store.registerCompiled]
    split
    · exact hnone
    · split
      · exact hnone
      · exact hother file hgrants.2
  | _ => exact hsame trivial

theorem onCodes (hstocked : system.Stocked) {answer : α}
    (hgrants : stocking.grants (.store operation) answer known learnt) (id : Uuid)
    (workflow : Workflow)
    (hstored : (operation.perform now system.store).2.workflows.get? id = some workflow) :
    ∃ task, (operation.perform now system.store).2.tasks.get? workflow.taskId = some task ∧
      task.codeId = workflow.codeId := by
  have hold : ∀ before, system.store.workflows.get? id = some before →
      workflow.taskId = before.taskId → workflow.codeId = before.codeId →
        ∃ task, (operation.perform now system.store).2.tasks.get? workflow.taskId = some task ∧
          task.codeId = workflow.codeId := by
    intro before hbefore htaskId hcodeId
    obtain ⟨task, htask, hcode⟩ := hstocked.coded id before hbefore
    obtain ⟨after, hafter, hsame⟩ := operation.task_kept now htask
    refine ⟨after, htaskId ▸ hafter, ?_⟩
    rw [hcodeId, ← hcode]
    rcases hsame with rfl | hwritten
    · rfl
    · exact (Prod.mk.inj hwritten.ids).2
  rcases operation.stored_workflow now hstocked.keyed hstored with ⟨before, hbefore, rfl⟩ | hadds
  · exact hold before hbefore (Workflow.taskId_of_fixed (operation.onWorkflow_fixed now before))
      (operation.onWorkflow_codeId now before)
  · cases operation with
    | createWorkflow added task =>
      obtain ⟨_, htaskId, hcodeId⟩ := hgrants
      obtain rfl : added = workflow := hadds
      rcases Store.createWorkflow_cases system.store added task with hsame | ⟨_, _, hadded⟩
      · rw [Store.Operation.perform, hsame] at hstored
        exact hold added hstored rfl rfl
      · rw [Store.Operation.perform, hadded]
        exact ⟨task, htaskId ▸ SortedMap.get?_insert_self _ _ _, hcodeId.symm⟩
    | _ => exact hadds.elim

theorem later (hstocked : system.Stocked) (hstore : next.store = system.store)
    (hcount : system.nextNumber ≤ next.nextNumber) : next.Stocked := by
  obtain ⟨⟨hfindings, hfiles⟩, hkeyed, hcoded⟩ := hstocked
  rw [← hstore] at hfindings hfiles hkeyed hcoded
  exact ⟨⟨fun n hn => hfindings n (Nat.le_trans hcount hn),
    fun n hn => hfiles n (Nat.le_trans hcount hn)⟩, hkeyed, hcoded⟩

end System.Stocked

theorem stocking_sound : stocking.Sound := by
  intro α call env system known learnt hholds hgrants
  have hgrows := call.nextNumber_le env system
  cases call with
  | clock | blobExists | blobUrl =>
    obtain rfl : learnt = known := hgrants
    exact hholds
  | reserve count =>
    refine ⟨?_, hholds.2.later rfl hgrows⟩
    rcases hgrants with rfl | rfl
    · exact Nat.le_trans hholds.1 hgrows
    · exact Nat.le_refl _
  | publish queue payload =>
    obtain rfl : learnt = known := hgrants
    refine ⟨Nat.le_trans hholds.1 hgrows, hholds.2.later ?_ hgrows⟩
    simp only [Call.perform, System.publish]
    split
    · rfl
    · rfl
  | store operation =>
    obtain rfl : learnt = known := by
      cases operation with
      | createWorkflow | insertGroups | createCode | registerCompiled => exact hgrants.1
      | _ => exact hgrants
    obtain ⟨hknown, hstocked⟩ := hholds
    refine ⟨hknown, ⟨?_, ?_⟩, hstocked.keyed.perform operation, ?_⟩
    · intro n hleft
      have hfindings := (operation.perform_groups env.now system.store).2
      exact (congrArg (SortedMap.get? · (Uuid.generated n)) hfindings).trans
        (hstocked.onFindings hknown hgrants n hleft)
    · exact hstocked.onFiles hknown hgrants
    · exact hstocked.onCodes hgrants

/-! ### Every service keeps the stock -/

namespace Orchestrator

open Program

variable {α : Type} {o : Orchestrator} {known : Nat}

theorem frugal_obeys {program : Program α} (hfrugal : program.Only Call.Frugal) :
    program.Obeys stocking :=
  obeys_of_only hfrugal fun _ answer known hcall => hcall.grants answer known

/-- A new identifier is a number that has been left so far, and is taken then. -/
theorem newId_stocking {post : Except ServiceError Uuid → Nat → Prop}
    (h : ∀ n, known ≤ n → post (.ok (Uuid.generated n)) (n + 1)) :
    newId.Honors stocking known post := by
  rw [newId, honors_bind]
  exact honors_reserve fun system hholds => ⟨_, Or.inr rfl, h system.nextNumber hholds.1⟩

theorem registerCode_stocking (upload : CodeUpload) : (registerCode upload).Obeys stocking := by
  unfold registerCode
  refine obeys_bind (frugal_obeys trivial) fun _ => ?_
  refine obeys_bind (frugal_obeys (only_blobExists trivial)) fun present => ?_
  split
  · intro known
    rw [honors_bind]
    refine newId_stocking fun fileNumber _ => ?_
    change Honors _ (_ >>= _) _ _
    rw [honors_bind]
    refine honors_clock fun fileMoment => ⟨_, rfl, ?_⟩
    change Honors _ (_ >>= _) _ _
    rw [honors_bind]
    refine newId_stocking fun codeNumber hlater => ?_
    change Honors _ (_ >>= _) _ _
    rw [honors_bind]
    refine honors_clock fun codeMoment => ⟨_, rfl, ?_⟩
    change Honors _ (_ >>= _) _ _
    rw [honors_bind]
    refine honors_store fun _ _ _ => ⟨_, ⟨rfl, fileNumber, ?_, rfl⟩, trivial⟩
    omega
  · exact fun _ => trivial

theorem dispatching_frugal {β : Type} (call : Call β) (hcall : Dispatching call) :
    call.Frugal := by
  cases call with
  | store operation =>
    cases operation with
    | createWorkflow | insertGroups | createCode | registerCompiled => exact hcall.elim
    | _ => trivial
  | _ => trivial

theorem reading_frugal {β : Type} (call : Call β) (hcall : call.Reading) : call.Frugal := by
  cases call with
  | store operation =>
    cases operation with
    | createWorkflow | insertGroups | createCode | registerCompiled => exact hcall.elim
    | _ => trivial
  | _ => trivial

theorem start_stocking (submission : Submission) : (o.start submission).Obeys stocking :=
  frugal_obeys (start_calls submission reading_frugal dispatching_frugal
    fun _ _ _ _ htask hcode => ⟨htask, hcode⟩)

theorem chain_frugal (workflow : Workflow) : (o.chain workflow).Only Call.Frugal :=
  only_mono (chain_only workflow) dispatching_frugal

theorem settle_frugal (workflow : Workflow) (taskId : Uuid) :
    (o.settle workflow taskId).Only Call.Frugal := by
  unfold settle
  refine only_bind (advance_only workflow trivial (fun _ => trivial) trivial) fun current => ?_
  refine only_bind (only_ask trivial) fun found => ?_
  cases found with
  | none => trivial
  | some task =>
    have hconclude : (o.conclude current task).Only Call.Frugal :=
      conclude_only current task (fun _ => trivial) trivial (fun _ _ => trivial) fun _ => trivial
    refine only_bind hconclude fun _ => ?_
    split
    · trivial
    · exact chain_frugal current

theorem resettle_frugal (workflow : Workflow) (task : Task) :
    (o.resettle workflow task).Only Call.Frugal := by
  unfold resettle
  split
  · exact settle_frugal workflow task.id
  · trivial

/-- The artifact is registered under the number that has just been taken for it. -/
theorem acceptArtifact_stocking (workflow : Workflow) (task : Task) (artifact : CompileArtifact) :
    (o.acceptArtifact workflow task artifact).Obeys stocking := by
  unfold acceptArtifact
  refine obeys_bind (frugal_obeys (only_storeOr trivial)) fun bound => ?_
  split
  · intro known
    rw [honors_bind]
    refine newId_stocking fun fileNumber _ => ?_
    change Honors _ (_ >>= _) _ _
    rw [honors_bind]
    refine honors_clock fun created => ⟨_, rfl, ?_⟩
    change Honors _ (_ >>= _) _ _
    rw [honors_bind]
    refine honors_storeOr fun _ _ _ => ⟨_, ⟨rfl, fileNumber, Nat.lt_succ_self _, rfl⟩, ?_⟩
    cases (Store.Operation.perform _ _ _).1 with
    | error e => trivial
    | ok added =>
      refine frugal_obeys ?_ _
      refine only_bind (only_ask trivial) fun now => only_bind (only_ask trivial) fun found => ?_
      cases found with
      | none => trivial
      | some advanced =>
        dsimp only
        split
        · exact only_bind (only_ask trivial) fun _ => trivial
        · exact chain_frugal advanced
  · exact fun _ => trivial

/-- Findings are stored under the numbers that have just been reserved for them. -/
theorem acceptFindings_stocking (workflow : Workflow) (task : Task) (answer : SaFinished) :
    (o.acceptFindings workflow task answer).Obeys stocking := by
  intro known
  unfold acceptFindings
  dsimp only
  rw [honors_bind]
  refine honors_reserve fun system hholds => ⟨_, Or.inr rfl, ?_⟩
  change Honors _ (_ >>= _) _ _
  rw [honors_bind]
  refine honors_clock fun now => ⟨_, rfl, ?_⟩
  unfold Onwards
  dsimp only
  split
  · trivial
  rename_i next _
  have hmove : ∀ ids : List Uuid,
      (o.endSa workflow task next (discardGroups task.id ids)).Obeys stocking := by
    intro ids
    unfold endSa discardGroups
    refine obeys_bind (frugal_obeys (only_ask trivial)) fun moved => frugal_obeys ?_
    split
    · exact settle_frugal workflow task.id
    · split
      · exact only_ask trivial
      · trivial
  split
  · rw [honors_bind]
    refine honors_storeOr fun _ _ _ => ⟨_, ⟨rfl, ?_⟩, ?_⟩
    · intro finding member
      obtain ⟨n, _, hless, hid⟩ := mem_numbered.mp (storedReports_finding_id member)
      exact ⟨n, hless, hid⟩
    · cases (Store.Operation.perform _ _ _).1 with
      | ok _ => exact hmove _ _
      | error e => trivial
  · exact hmove _ _

theorem onCompileFinished_stocking (answer : CompileFinished) :
    (o.onCompileFinished answer).Obeys stocking := by
  refine obeys_bind (frugal_obeys (only_ask trivial)) fun found => ?_
  cases found with
  | none => exact fun _ => trivial
  | some workflow =>
    dsimp only
    split
    · exact fun _ => trivial
    split
    · exact frugal_obeys (only_bind (only_ask trivial) fun _ => trivial)
    split
    · exact fun _ => trivial
    refine obeys_bind (frugal_obeys (only_ask trivial)) fun found => ?_
    cases found with
    | none => exact fun _ => trivial
    | some task => exact acceptArtifact_stocking workflow task _

theorem resolve_frugal (workflowId taskId : Uuid) :
    (resolve workflowId taskId).Only Call.Frugal :=
  resolve_only workflowId taskId (fun _ => trivial) fun _ => trivial

theorem onSaFinished_stocking (answer : SaFinished) : (o.onSaFinished answer).Obeys stocking := by
  refine obeys_bind (frugal_obeys (resolve_frugal _ _)) fun found => ?_
  cases found with
  | none => exact fun _ => trivial
  | some found =>
    dsimp only
    split
    · exact fun _ => trivial
    split
    · exact frugal_obeys (resettle_frugal _ _)
    · exact acceptFindings_stocking _ _ answer

theorem onMlFinished_frugal (answer : MlFinished) : (o.onMlFinished answer).Only Call.Frugal := by
  refine only_bind (resolve_frugal _ _) fun found => ?_
  cases found with
  | none => trivial
  | some found =>
    dsimp only
    split
    · trivial
    split
    · exact resettle_frugal _ _
    refine only_bind (only_ask trivial) fun now => ?_
    split
    · trivial
    · refine only_bind (only_ask trivial) fun moved => ?_
      split
      · exact settle_frugal _ _
      · trivial

theorem process_stocking (message : Completion) : (o.process message).Obeys stocking := by
  cases message with
  | compile answer => exact onCompileFinished_stocking answer
  | sa answer => exact onSaFinished_stocking answer
  | ml answer => exact frugal_obeys (onMlFinished_frugal answer)

end Orchestrator

namespace System

open Orchestrator

variable {o : Orchestrator} {start system next : System}

theorem Stocked.service (hstocked : system.Stocked) (hservice : Service o system next) :
    next.Stocked := by
  have hruns : ∀ {α : Type} {program : Program α} {outcome : Except ServiceError α},
      program.Obeys stocking → program.Runs system outcome next → next.Stocked := by
    intro α program outcome hobeys hruns
    obtain ⟨_, hholds, _⟩ := (hobeys 0).runs stocking_sound ⟨Nat.zero_le _, hstocked⟩ hruns
    exact hholds.2
  cases hservice with
  | registerCode upload hservice => exact hruns (registerCode_stocking upload) hservice
  | start submission hservice => exact hruns (start_stocking submission) hservice
  | process _ hservice => exact hruns (process_stocking _) hservice
  | remerge taskId hservice =>
    exact hruns (frugal_obeys (remerge_only taskId reading_frugal fun _ _ _ => trivial)) hservice
  | audit taskId findingId request hservice =>
    have hfrugal : (auditFinding taskId findingId request).Only Call.Frugal :=
      auditFinding_only taskId findingId request (fun _ => trivial) trivial (fun _ _ => trivial)
        (fun _ => trivial) fun _ _ => trivial
    exact hruns (frugal_obeys hfrugal) hservice
  | putRule rule => exact { hstocked with keyed := hstocked.keyed.putRule rule }
  | putTemplate template => exact { hstocked with keyed := hstocked.keyed.putTemplate template }

/-- A number that is left when the first workflow begins names neither a finding nor a file
before it is taken. -/
theorem Initial.stocked (hinitial : start.Initial) (hunspent : start.Unspent)
    (hreach : Reaches o start system) : system.Stocked := by
  induction hreach with
  | refl =>
    refine ⟨hunspent, hinitial.keyed, ?_⟩
    intro id workflow hstored
    rw [hinitial.workflows, SortedMap.get?_empty] at hstored
    cases hstored
  | step _ hservice ih => exact ih.service hservice

end System

end ScanFlow
