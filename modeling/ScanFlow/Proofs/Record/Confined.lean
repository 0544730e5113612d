import ScanFlow.Proofs.Record.Step
import ScanFlow.Proofs.Record.Stocked

/-!
What one message can touch.

A message carries on the workflow that it is about, and its task. All other workflows and tasks
stay as they are; so do the catalog and every finding that is stored already. Only an answer of
the compiler registers a file, and only with the code of its own workflow. A message whose
workflow and task do not belong together changes nothing at all.
-/

namespace ScanFlow

/-! ### Requests about one workflow -/

def Delivery.AsksAbout (delivery : Delivery) (id : Uuid) : Prop :=
  ∃ request : EngineRequest, request.workflowId = id ∧ delivery.queue = request.queue ∧
    delivery.payload = request.toJson ∧ delivery.attempts = 0

structure Broker.Gains (id : Uuid) (before after : Broker) : Prop where
  claimed : after.claimed = before.claimed
  ready : ∃ added, after.ready = before.ready ++ added ∧
    ∀ delivery ∈ added, delivery.AsksAbout id

namespace Broker.Gains

variable {id : Uuid} {before after : Broker}

theorem refl (id : Uuid) (broker : Broker) : Gains id broker broker :=
  ⟨rfl, [], (List.append_nil _).symm, nofun⟩

theorem publish (h : Gains id before after) {request : EngineRequest}
    (habout : request.workflowId = id) (number : Uuid) :
    Gains id before (after.publish number request.queue request.toJson) := by
  obtain ⟨hclaimed, added, hready, hasks⟩ := h
  refine ⟨hclaimed, added ++ [⟨number, request.queue, request.toJson, 0⟩], ?_, ?_⟩
  · simp only [Broker.publish, hready, List.append_assoc]
  · intro delivery member
    rcases List.mem_append.mp member with hold | hnew
    · exact hasks delivery hold
    · rw [List.mem_singleton.mp hnew]
      exact ⟨request, habout, rfl, rfl, rfl⟩

end Broker.Gains

structure System.Asked (id : Uuid) (before after : System) : Prop where
  gains : before.broker.Gains id after.broker
  rest : after.frame.2 = before.frame.2

/-- A call that asks about one workflow, or stores nothing but records of workflows, tasks and
findings. -/
def Call.About {α : Type} (id : Uuid) (call : Call α) : Prop :=
  match call with
  | .store operation => operation.Calm
  | .publish queue payload => ∃ request : EngineRequest, request.workflowId = id ∧
      queue = request.queue ∧ payload = request.toJson
  | _ => True

namespace System.Asked

variable {id : Uuid} {before after : System}

theorem of_frame (hframe : after.frame = before.frame) : System.Asked id before after := by
  have hbroker : after.broker = before.broker := congrArg (fun frame => frame.1) hframe
  exact ⟨hbroker ▸ .refl id _, congrArg (fun frame => frame.2) hframe⟩

theorem perform {α : Type} {call : Call α} (habout : call.About id) (env : Environment)
    (h : System.Asked id before after) : System.Asked id before (call.perform env after).2 := by
  cases call with
  | clock | reserve | blobExists | blobUrl => exact ⟨h.gains, h.rest⟩
  | store operation =>
    have hcalm : operation.Calm := habout
    exact ⟨h.gains, (congrArg (fun frame => frame.2) (hcalm.frame env.now after)).trans h.rest⟩
  | publish queue payload =>
    obtain ⟨request, hid, rfl, rfl⟩ := habout
    simp only [Call.perform, System.publish]
    split
    · exact h
    · exact ⟨h.gains.publish hid _, h.rest⟩

end System.Asked

/-! ### Registering an artifact -/

/-- Nothing has been registered, or one new file as the artifact of the code. -/
inductive Store.Registers (codeId : Uuid) (before after : Store) : Prop where
  | nothing (hcodes : after.codes = before.codes) (hfiles : after.files = before.files)
  | artifact (file : StoredFile) (code : Code) (hknown : before.codes.get? codeId = some code)
      (hnew : before.files.get? file.id = none)
      (hfiles : after.files = before.files.insert file.id file)
      (hcodes : after.codes =
        before.codes.insert codeId { code with compiledFileId := some file.id })

/-- Registering an artifact leaves the catalog as it is. -/
theorem Store.registerCompiled_registers {store : Store} (hkeyed : store.Keyed) (codeId : Uuid)
    {file : StoredFile} (hnew : store.files.get? file.id = none) :
    store.Registers codeId (store.registerCompiled codeId file).2 ∧
      (store.registerCompiled codeId file).2.rules = store.rules ∧
        (store.registerCompiled codeId file).2.templates = store.templates := by
  unfold registerCompiled
  split
  · exact ⟨.nothing rfl rfl, rfl, rfl⟩
  · rename_i code hknown
    have hid : code.id = codeId := hkeyed.codes codeId code hknown
    split
    · exact ⟨.nothing rfl rfl, rfl, rfl⟩
    · refine ⟨.artifact file code hknown hnew rfl ?_, rfl, rfl⟩
      rw [← hid]
      rfl

structure System.Widened (workflow : Workflow) (before after : System) : Prop where
  rules : after.store.rules = before.store.rules
  templates : after.store.templates = before.store.templates
  registers : before.store.Registers workflow.codeId after.store
  gains : before.broker.Gains workflow.id after.broker

namespace System.Widened

variable {workflow : Workflow} {before mid after : System}

theorem of_frame (workflow : Workflow) (hframe : after.frame = before.frame) :
    System.Widened workflow before after := by
  simp only [System.frame, Prod.mk.injEq] at hframe
  obtain ⟨hbroker, hrules, htemplates, hcodes, hfiles⟩ := hframe
  exact ⟨hrules, htemplates, .nothing hcodes hfiles, hbroker ▸ .refl _ _⟩

/-- An artifact is registered under a number that names no file yet. -/
theorem of_artifact (hkeyed : mid.store.Keyed) (hframe : mid.frame = before.frame)
    {file : StoredFile} (hnew : mid.store.files.get? file.id = none) :
    System.Widened workflow before
      { mid with store := (mid.store.registerCompiled workflow.codeId file).2 } := by
  simp only [System.frame, Prod.mk.injEq] at hframe
  obtain ⟨hbroker, hrules, htemplates, hcodes, hfiles⟩ := hframe
  obtain ⟨hregisters, hsameRules, hsameTemplates⟩ :=
    Store.registerCompiled_registers hkeyed workflow.codeId hnew
  refine ⟨hsameRules.trans hrules, hsameTemplates.trans htemplates, ?_, hbroker ▸ .refl _ _⟩
  cases hregisters with
  | nothing hsameCodes hsameFiles =>
    exact .nothing (hsameCodes.trans hcodes) (hsameFiles.trans hfiles)
  | artifact file code hknown hnew hadded hchanged =>
    rw [hcodes] at hknown hchanged
    rw [hfiles] at hnew hadded
    exact .artifact file code hknown hnew hadded hchanged

/-- Nothing more is registered while engines are asked. -/
theorem asked (h : System.Widened workflow before mid) (hbroker : mid.broker = before.broker)
    (hasked : System.Asked workflow.id mid after) : System.Widened workflow before after := by
  have hrest := hasked.rest
  simp only [System.frame, Prod.mk.injEq] at hrest
  obtain ⟨hrules, htemplates, hcodes, hfiles⟩ := hrest
  refine ⟨hrules.trans h.rules, htemplates.trans h.templates, ?_, hbroker ▸ hasked.gains⟩
  cases h.registers with
  | nothing hsameCodes hsameFiles =>
    exact .nothing (hcodes.trans hsameCodes) (hfiles.trans hsameFiles)
  | artifact file code hknown hnew hadded hchanged =>
    exact .artifact file code hknown hnew (hfiles.trans hadded) (hcodes.trans hchanged)

end System.Widened

namespace Orchestrator

open Program

variable {o : Orchestrator} {system before : System} {scene : Scene}

theorem about_of_dispatching {id : Uuid} {β : Type} (operation : Store.Operation β)
    (h : Dispatching (.store operation)) : (Call.store operation).About id := by
  cases operation with
  | createCode | registerCompiled => exact h.elim
  | _ => trivial

/-- Going on asks about the workflow that is gone on with. -/
theorem chain_about (workflow : Workflow) :
    (o.chain workflow).Only (Call.About workflow.id) :=
  chain_calls workflow about_of_dispatching trivial (fun _ _ => trivial) fun request habout =>
    ⟨request, habout, rfl, rfl⟩

/-- The first dispatch asks about the new workflow. -/
theorem dispatchFirst_about (workflow : Workflow) :
    (o.dispatchFirst workflow).Only (Call.About workflow.id) :=
  dispatchFirst_calls workflow about_of_dispatching trivial (fun _ _ => trivial)
    fun request habout => ⟨request, habout, rfl, rfl⟩

/-- Who asks about one workflow only makes the queues gain requests about it. -/
theorem asked_of_about {α : Type} {id : Uuid} {program : Program α}
    {outcome : Except ServiceError α} {final : System} (habout : program.Only (Call.About id))
    (hruns : program.Runs system outcome final) : System.Asked id system final :=
  (preserves_of_only (fun _ env _ hcall hasked => System.Asked.perform hcall env hasked)
    habout).runs hruns (.of_frame rfl)

/-- Once the artifact is registered, the workflow is gone on with. -/
theorem advanceCompiled_widens {workflow : Workflow} (hshows : system.Shows scene)
    (hid : workflow.id = scene.workflow.id) (hwidened : System.Widened workflow before system)
    (hbroker : system.broker = before.broker) :
    (o.advanceCompiled workflow).Through (fun _ => True) system fun _ final =>
      System.Widened workflow before final := by
  have hmore : ∀ (program : Program Unit) (met : System),
      program.Only (Call.About workflow.id) → met.frame = system.frame →
        program.Through (fun _ => True) met fun _ final =>
          System.Widened workflow before final := by
    intro program met habout hframe
    have hpreserves : program.Preserves (System.Asked workflow.id system) :=
      preserves_of_only (fun _ env _ hcall hasked => hasked.perform hcall env) habout
    apply (hpreserves met (.of_frame hframe)).mono fun _ _ => trivial
    exact fun _ final hasked => hwidened.asked hbroker hasked
  unfold advanceCompiled
  rw [through_bind]
  apply through_clock trivial
  intro moment
  change Through _ (_ >>= _) _ _
  rw [through_bind]
  refine through_calm trivial hshows ?_
  intro now found next hfound _ hframe
  have hsame : found = scene.workflow.advanced? moment := hfound hid
  cases found with
  | none => exact hmore (pure ()) next trivial hframe
  | some advanced =>
    have hstill : advanced.id = workflow.id := by
      rw [(Workflow.advanced?_eq_some hsame.symm).2.2, hid]
    unfold Rest goOn
    dsimp only
    split
    · exact hmore _ next (only_bind (only_ask trivial) fun _ => trivial) hframe
    · exact hmore _ next (hstill ▸ chain_about advanced) hframe

/-- The artifact is registered under a number that has been left. -/
theorem acceptArtifact_widens (hshows : system.Shows scene)
    (hunspent : system.Unspent) (hcode : scene.task.codeId = scene.workflow.codeId)
    (artifact : CompileArtifact) :
    (o.acceptArtifact scene.workflow scene.task artifact).Through (fun _ => True) system
      fun _ final => System.Widened scene.workflow system final := by
  unfold acceptArtifact
  dsimp only
  rw [through_bind, storeOr, through_bind]
  refine through_calm trivial hshows ?_
  intro now bound met hbound hmet hframe
  cases bound with
  | error e => exact .of_frame _ hframe
  | ok bound =>
    unfold Rest
    change Through _ (ite _ _ _) _ _
    split
    · rw [through_bind, newId, through_bind]
      refine through_reserve_calm hmet ?_
      intro counted hcounted hsame
      change Through _ (_ >>= _) _ _
      rw [through_bind]
      apply through_clock trivial
      intro created
      change Through _ (_ >>= _) _ _
      rw [through_bind, storeOr, through_bind]
      intro env
      refine ⟨trivial, ?_⟩
      have hleft : counted.store.files.get? (Uuid.generated scene.nextNumber) = none := by
        have hfiles : counted.store.files = system.store.files :=
          congrArg (fun frame => frame.2.2.2.2) (hsame.trans hframe)
        rw [hfiles]
        exact hunspent.files _ (Nat.le_of_eq hshows.nextNumber)
      let file : StoredFile :=
        { id := Uuid.generated scene.nextNumber
          name := artifact.name
          size := artifact.size
          md5 := artifact.md5
          objectKey := artifact.objectKey
          folder := StoredFile.compiledFolder
          createdAt := created }
      have hshown := hcounted.store env.now (.registerCompiled scene.task.codeId file)
      have hwidened : System.Widened scene.workflow system
          { counted with
            store := (counted.store.registerCompiled scene.task.codeId file).2 } :=
        hcode ▸ .of_artifact hcounted.keyed (hsame.trans hframe) hleft
      have hbroker : counted.broker = system.broker :=
        congrArg (fun frame => frame.1) (hsame.trans hframe)
      change (Rest _ _ _ (.ok (counted.store.registerCompiled scene.task.codeId file).1) _ : Prop)
      cases (counted.store.registerCompiled scene.task.codeId file).1 with
      | error e => exact hwidened
      | ok added => exact advanceCompiled_widens hshown rfl hwidened hbroker
    · exact .of_frame _ hframe

theorem onCompileFinished_widens (hshows : system.Shows scene) (hunspent : system.Unspent)
    (hcode : scene.task.codeId = scene.workflow.codeId) {answer : CompileFinished}
    (hid : answer.workflowId = scene.workflow.id) :
    (o.onCompileFinished answer).Through (fun _ => True) system fun _ final =>
      System.Widened scene.workflow system final := by
  have hidle : System.Widened scene.workflow system system := .of_frame _ rfl
  unfold onCompileFinished
  rw [through_bind]
  apply through_findWorkflow hshows trivial hid
  unfold Rest
  dsimp only
  split
  · exact hidle
  split
  · rw [Program.finish, through_bind]
    refine through_calm trivial hshows ?_
    exact fun _ _ _ _ _ hframe => .of_frame _ hframe
  split
  · exact hidle
  · rw [through_bind]
    apply through_findTask hshows trivial hshows.linked
    exact acceptArtifact_widens hshows hunspent hcode _

end Orchestrator

/-! ### Messages -/

def Completion.taskId? : Completion → Option Uuid
  | compile _ => none
  | sa answer => some answer.taskId
  | ml answer => some answer.taskId

/-- The workflow of the message is stored, and so is its task. A task that the message names is
the one of its workflow. -/
def System.Resolves (system : System) (message : Completion) : Prop :=
  ∃ workflow task, system.store.workflows.get? message.workflowId = some workflow ∧
    system.store.tasks.get? (message.taskId?.getD workflow.taskId) = some task ∧
      workflow.taskId = task.id

/-- What the message has left alone, and what it can have added. -/
structure Completion.Confined (message : Completion) (workflow : Workflow)
    (before after : System) : Prop where
  workflows : ∀ id, id ≠ workflow.id →
    after.store.workflows.get? id = before.store.workflows.get? id
  tasks : ∀ id, id ≠ workflow.taskId → after.store.tasks.get? id = before.store.tasks.get? id
  groups : ∃ added, after.store.groups = before.store.groups ++ added ∧
    ∀ group ∈ added, group.taskId = workflow.taskId
  findings : ∀ id finding, before.store.findings.get? id = some finding →
    after.store.findings.get? id = some finding
  added : ∀ id finding, after.store.findings.get? id = some finding →
    before.store.findings.get? id = some finding ∨
      finding.taskId = workflow.taskId ∧ finding.audit = none
  catalog : after.store.rules = before.store.rules ∧ after.store.templates = before.store.templates
  registers : before.store.Registers workflow.codeId after.store
  unregistered : (∀ answer, message ≠ .compile answer) →
    after.store.codes = before.store.codes ∧ after.store.files = before.store.files
  gains : before.broker.Gains workflow.id after.broker

namespace System

open Orchestrator

variable {o : Orchestrator} {start system next : System} {scene : Scene} {message : Completion}
  {outcome : Except ServiceError Unit}

/-- An engine has nothing registered, and makes nobody ask another one. -/
theorem Sound.process_frame (hsound : system.Sound) (hshows : system.Shows scene)
    (hid : message.workflowId = scene.workflow.id) (hengine : ∀ answer, message ≠ .compile answer)
    (hruns : (o.process message).Runs system outcome next) : next.frame = system.frame := by
  cases message with
  | compile answer => exact absurd rfl (hengine answer)
  | sa answer =>
    by_cases htask : answer.taskId = scene.task.id
    · obtain ⟨_, hmoved⟩ := sa_moved hsound hshows hid htask hruns
      exact hmoved.kept.2.2
    · rw [sa_unpaired (hsound.unpaired hshows hid htask) hruns]
  | ml answer =>
    by_cases htask : answer.taskId = scene.task.id
    · exact (ml_moved hsound hshows hid htask hruns).kept.2.2
    · rw [ml_unpaired (hsound.unpaired hshows hid htask) hruns]

/-- A message registers a compiled artifact at most. -/
theorem Sound.process_widens (hsound : system.Sound) (hstocked : system.Stocked)
    (hshows : system.Shows scene) (hid : message.workflowId = scene.workflow.id)
    (hruns : (o.process message).Runs system outcome next) :
    System.Widened scene.workflow system next := by
  have hcode : scene.task.codeId = scene.workflow.codeId := by
    obtain ⟨task, htask, hcode⟩ := hstocked.coded _ _ hshows.workflow
    rw [hshows.linked, hshows.task, Option.some.injEq] at htask
    rw [htask, hcode]
  have hengine : (∀ answer, message ≠ .compile answer) →
      System.Widened scene.workflow system next :=
    fun hengine => .of_frame _ (hsound.process_frame hshows hid hengine hruns)
  cases message with
  | compile answer =>
    exact (onCompileFinished_widens hshows hstocked.toUnspent hcode hid).runs hruns
  | sa | ml => exact hengine nofun

/-- The reports of a message, if it has any, are added to those that are stored. -/
theorem Sound.process_reports (hsound : system.Sound) (hshows : system.Shows scene)
    (hid : message.workflowId = scene.workflow.id)
    (hruns : (o.process message).Runs system outcome next) :
    ∃ rules, next.store.groups = system.store.groups ++
        (storedReports scene.task.id system.nextNumber rules).map GroupReport.group ∧
      next.store.findings =
        ((storedReports scene.task.id system.nextNumber rules).flatMap
          GroupReport.findings).foldl (fun table finding => table.insert finding.id finding)
            system.store.findings := by
  rw [hshows.groups, hshows.findings, hshows.nextNumber]
  rcases hsound.process_stored hshows hid.symm hruns with ⟨hgroups, hfindings⟩ |
    ⟨rules, hgroups, hfindings⟩
  · exact ⟨[], hgroups.trans (List.append_nil _).symm, hfindings⟩
  · rw [Scene.after_insertGroups, if_pos (ownReports_storedReports _ _ _)] at hgroups hfindings
    exact ⟨rules, hgroups, hfindings⟩

/-- What is stored under fresh numbers replaces no finding. -/
theorem Unspent.findings_beside (hunspent : system.Unspent) (taskId : Uuid)
    (rules : List (String × SaRuleResult)) {id : Uuid} {finding : Finding}
    (hstored : system.store.findings.get? id = some finding) :
    (((storedReports taskId system.nextNumber rules).flatMap GroupReport.findings).foldl
      (fun table finding => table.insert finding.id finding) system.store.findings).get? id =
        some finding := by
  rw [SortedMap.get?_foldl_insert_of_not_mem Finding.id (fun finding => finding), hstored]
  intro added member heq
  obtain ⟨n, hfirst, _, hown⟩ := mem_numbered.mp (storedReports_finding_id member)
  rw [← heq, hown, hunspent.findings n hfirst] at hstored
  cases hstored

theorem Sound.confined (hsound : system.Sound) (hstocked : system.Stocked)
    (hshows : system.Shows scene) (hid : message.workflowId = scene.workflow.id)
    (hspares : scene.Spares system next)
    (hruns : (o.process message).Runs system outcome next) :
    message.Confined scene.workflow system next := by
  have hwidened := hsound.process_widens hstocked hshows hid hruns
  obtain ⟨rules, hgroups, hfindings⟩ := hsound.process_reports hshows hid hruns
  refine
    { workflows := hspares.workflows
      tasks := fun taskId hother => hspares.tasks taskId (hshows.linked ▸ hother)
      groups := ⟨_, hgroups, ?_⟩
      findings := ?_
      added := ?_
      catalog := ⟨hwidened.rules, hwidened.templates⟩
      registers := hwidened.registers
      unregistered := ?_
      gains := hwidened.gains }
  · intro group member
    obtain ⟨report, hreport, rfl⟩ := List.mem_map.mp member
    rw [(storedReports_own hreport).1, hshows.linked]
  · intro findingId finding hstored
    rw [hfindings]
    exact hstocked.findings_beside scene.task.id rules hstored
  · intro findingId finding hstored
    rw [hfindings] at hstored
    rcases SortedMap.of_get?_foldl_insert Finding.id (fun finding => finding) _ _ hstored with
      hold | ⟨_, member, _, rfl⟩
    · exact Or.inl hold
    · obtain ⟨report, hreport, hfinding⟩ := List.mem_flatMap.mp member
      obtain ⟨_, _, reported, _, number, rfl⟩ := mem_storedReports hreport hfinding
      exact Or.inr ⟨hshows.linked.symm, rfl⟩
  · intro hengine
    have hframe := hsound.process_frame hshows hid hengine hruns
    simp only [System.frame, Prod.mk.injEq] at hframe
    exact hframe.2.2.2

/-- A message that names no workflow with its task changes nothing. -/
theorem Sound.process_unresolved (hsound : system.Sound) (hnone : ¬ system.Resolves message)
    (hruns : (o.process message).Runs system outcome next) : next = system := by
  cases hstored : system.store.workflows.get? message.workflowId with
  | none => exact Sound.process_unknown hstored hruns
  | some workflow =>
    obtain ⟨scene, rfl, hshows, _⟩ := hsound.scene hstored
    have hunpaired : ∀ taskId, message.taskId? = some taskId →
        ¬ system.Pairs message.workflowId taskId := by
      rintro taskId hnamed ⟨other, task, hother, htask, hlinked⟩
      exact hnone ⟨other, task, hother, by rw [hnamed]; exact htask, hlinked⟩
    cases message with
    | compile answer =>
      have htask := hshows.task
      rw [← hshows.linked] at htask
      exact absurd ⟨scene.workflow, scene.task, hstored, htask, hshows.linked⟩ hnone
    | sa answer => exact sa_unpaired (hunpaired _ rfl) hruns
    | ml answer => exact ml_unpaired (hunpaired _ rfl) hruns

/-- A message touches nothing but the workflow that it is about, with its task and its code, and
makes the orchestrator ask about this workflow only. If it does not name a workflow with its task,
nothing is touched at all. -/
theorem message_confined (hinitial : start.Initial) (hunspent : start.Unspent)
    (hreach : Reaches o start system) (message : Completion) {outcome : Except ServiceError Unit}
    {final : System} (hruns : (o.process message).Runs system outcome final) :
    (∀ workflow, system.store.workflows.get? message.workflowId = some workflow →
      message.Confined workflow system final) ∧
    (¬ system.Resolves message → final = system) := by
  obtain ⟨hsound, _⟩ := hinitial.reaches hreach
  have hstocked := hinitial.stocked hunspent hreach
  refine ⟨?_, fun hnone => hsound.process_unresolved hnone hruns⟩
  intro workflow hstored
  obtain ⟨scene, rfl, hshows, hmatched, hphase⟩ := hsound.scene hstored
  have hid : message.workflowId = scene.workflow.id :=
    (hsound.keyed.workflows _ _ hstored).symm
  obtain ⟨_, _, _, _, _, hspares, _⟩ :=
    (process_alone hshows.linked hmatched hphase message hid).runs hshows hruns
  exact hsound.confined hstocked hshows hid hspares hruns

/-- Nothing has been stored in an empty system. -/
theorem unspent_empty : System.empty.Unspent := ⟨fun _ _ => rfl, fun _ _ => rfl⟩

/-- The compiler answers: its artifact is registered beside the source, and both engines are asked
beside the compiler. An answer about a task that is not stored changes nothing. -/
theorem compile_answer_confined :
    ∃ workflow, (submitted .compileSaMl).store.workflows.get? (Uuid.generated 3) = some workflow ∧
      (Completion.compile (compiledAs "shop.jar")).Confined workflow (submitted .compileSaMl)
        (compiled .compileSaMl) ∧
      (submitted .compileSaMl).store.files.size = 1 ∧ (compiled .compileSaMl).store.files.size = 2 ∧
      (compiled .compileSaMl).broker.ready.map Delivery.queue =
        (submitted .compileSaMl).broker.ready.map Delivery.queue ++ [.saEngine, .mlEngine] ∧
      ((smallOrchestrator.process (.ml ⟨Uuid.generated 3, Uuid.generated 0, true, none⟩)).run
        quietWorld (submitted .compileSaMl)).2 = submitted .compileSaMl := by
  have hknown : ((submitted .compileSaMl).store.workflows.get? (Uuid.generated 3)).isSome := by
    decide +kernel
  obtain ⟨workflow, hstored⟩ := Option.isSome_iff_exists.mp hknown
  obtain ⟨hconfined, _⟩ := message_confined initial_empty unspent_empty
    (reaches_submitted .compileSaMl) (.compile (compiledAs "shop.jar"))
    (runs_quietly _ (submitted .compileSaMl))
  have hforeign : (submitted .compileSaMl).store.tasks.get? (Uuid.generated 0) = none := by
    decide +kernel
  obtain ⟨_, hidle⟩ := message_confined initial_empty unspent_empty
    (reaches_submitted .compileSaMl) (.ml ⟨Uuid.generated 3, Uuid.generated 0, true, none⟩)
    (runs_quietly _ (submitted .compileSaMl))
  refine ⟨workflow, hstored, hconfined workflow hstored, ?_, ?_, ?_, hidle ?_⟩
  · decide +kernel
  · decide +kernel
  · decide +kernel
  · rintro ⟨_, task, _, htask, _⟩
    exact nomatch hforeign.symm.trans htask

end System

end ScanFlow
