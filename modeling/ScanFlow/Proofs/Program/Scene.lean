import ScanFlow.Proofs.Store.Groups
import ScanFlow.System

/-!
The part of the system that the services of one workflow see.

A scene is a workflow with its task, the groups and findings, and the supply of numbers.
Calls move a scene: what they write to it is determined, and so are the answers that
depend on it alone; all other answers are left open. Everything that is shown of calls on
a scene therefore holds on every system that shows the scene.
-/

namespace ScanFlow

/-- A workflow with its task, and what the store keeps of findings. -/
structure Scene where
  workflow : Workflow
  task : Task
  groups : List FindingGroup
  findings : Table Finding
  nextNumber : Nat

/-- The system shows the scene: it stores the workflow and its task, whose code is known,
and it keeps the same groups, findings and numbers. -/
structure System.Shows (system : System) (scene : Scene) : Prop where
  keyed : system.store.Keyed
  workflow : system.store.workflows.get? scene.workflow.id = some scene.workflow
  task : system.store.tasks.get? scene.task.id = some scene.task
  linked : scene.workflow.taskId = scene.task.id
  code : (system.store.codes.get? scene.task.codeId).isSome
  groups : system.store.groups = scene.groups
  findings : system.store.findings = scene.findings
  nextNumber : system.nextNumber = scene.nextNumber

namespace Scene

def reports (scene : Scene) (taskId : Uuid) : List GroupReport :=
  (scene.groups.filter fun group => group.taskId = taskId).map fun group =>
    ⟨group, group.findingIds.filterMap scene.findings.get?⟩

def after {α : Type} (scene : Scene) (now : Timestamp) (operation : Store.Operation α) : Scene :=
  { workflow := operation.onWorkflow now scene.workflow
    task := operation.onTask now scene.task
    groups := operation.onGroups scene.groups
    findings := operation.onFindings scene.groups scene.findings
    nextNumber := scene.nextNumber }

variable {α : Type} {now : Timestamp} {operation : Store.Operation α} {scene : Scene}

/-- An operation on the workflow of the scene changes nothing else of it. -/
theorem after_workflowChange {change : Workflow → Option Workflow}
    (h : operation.workflowChange? now = some (scene.workflow.id, change)) :
    scene.after now operation =
      { scene with workflow := (change scene.workflow).getD scene.workflow } := by
  have hworkflow : operation.onWorkflow now scene.workflow =
      (change scene.workflow).getD scene.workflow := by
    simp [Store.Operation.onWorkflow, Store.Operation.changed, h]
  unfold after
  rw [hworkflow]
  cases operation with
  | advance | finish => rfl
  | _ => cases h

/-- An operation on the task of the scene changes nothing else of it. -/
theorem after_taskChange {change : Task → Option Task}
    (h : operation.taskChange? now = some (scene.task.id, change)) :
    scene.after now operation =
      { scene with task := (change scene.task).getD scene.task } := by
  have htask : operation.onTask now scene.task = (change scene.task).getD scene.task := by
    simp [Store.Operation.onTask, Store.Operation.changed, h]
  unfold after
  rw [htask]
  cases operation with
  | setArtifact | bindAnalysis | moveSa | moveMl | claimMerge | storeSummary
  | setAuditCount => rfl
  | _ => cases h

end Scene

/-- What the scene says about the answer of an operation. -/
def Store.Operation.Answers {α : Type} (now : Timestamp) (operation : Operation α)
    (scene : Scene) (answer : α) : Prop :=
  match operation with
  | .findWorkflow id => id = scene.workflow.id → answer = some scene.workflow
  | .advance id moment => id = scene.workflow.id → answer = scene.workflow.advanced? moment
  | .findTask id =>
    (id = scene.task.id → answer = some scene.task) ∧
      ∀ task : Task, answer = some task → task.id = id
  | .setArtifact id name key saProgress =>
    id = scene.task.id →
      answer = .ok (scene.task.withArtifact? name key saProgress now).isSome
  | .bindAnalysis id binding =>
    id = scene.task.id → answer = (scene.task.withAnalysis? binding now).isSome
  | .moveSa id expected next =>
    id = scene.task.id → answer = (scene.task.withSa? expected next now).isSome
  | .moveMl id expected next =>
    id = scene.task.id → answer = (scene.task.withMl? expected next now).isSome
  | .claimMerge id summary count =>
    id = scene.task.id → answer = (scene.task.withClaim? summary count now).isSome
  | .insertGroups taskId reports => ownReports taskId reports = true → answer = .ok ()
  | .groupReports taskId => answer = scene.reports taskId
  | .registerCompiled codeId _ => codeId = scene.task.codeId → ∃ added, answer = .ok added
  | _ => True

def Call.Moves {α : Type} (env : Environment) (call : Call α) (scene : Scene) (answer : α)
    (next : Scene) : Prop :=
  match call with
  | .clock => next = scene
  | .reserve count =>
    answer = scene.nextNumber ∧ next = { scene with nextNumber := scene.nextNumber + count }
  | .store operation =>
    operation.Answers env.now scene answer ∧ next = scene.after env.now operation
  | .publish _ _ =>
    next = scene ∨ next = { scene with nextNumber := scene.nextNumber + 1 }
  | .blobExists _ => next = scene
  | .blobUrl _ _ => next = scene

/-- A call of the store moves the scene by its operation; all others take numbers at most. -/
theorem Call.Moves.cases {α : Type} {env : Environment} {call : Call α} {scene next : Scene}
    {answer : α} (hmoves : call.Moves env scene answer next) :
    (∃ nextNumber, next = { scene with nextNumber }) ∨
      ∃ operation, call = .store operation ∧ operation.Answers env.now scene answer ∧
        next = scene.after env.now operation := by
  cases call with
  | clock | blobExists | blobUrl => exact Or.inl ⟨scene.nextNumber, hmoves⟩
  | reserve count => exact Or.inl ⟨scene.nextNumber + count, hmoves.2⟩
  | publish queue payload =>
    rcases hmoves with hsame | hsame
    · exact Or.inl ⟨scene.nextNumber, hsame⟩
    · exact Or.inl ⟨scene.nextNumber + 1, hsame⟩
  | store operation => exact Or.inr ⟨operation, rfl, hmoves.1, hmoves.2⟩

variable {α : Type} {system : System} {scene : Scene} {env : Environment}

theorem System.Shows.answers (hshows : system.Shows scene) (now : Timestamp)
    (operation : Store.Operation α) :
    operation.Answers now scene (operation.perform now system.store).1 := by
  cases operation with
  | findWorkflow id =>
    rintro rfl
    exact hshows.workflow
  | advance id moment =>
    rintro rfl
    exact Store.changeWorkflow_answer hshows.workflow _
  | findTask id =>
    refine ⟨?_, hshows.keyed.tasks id⟩
    rintro rfl
    exact hshows.task
  | setArtifact id name key saProgress =>
    rintro rfl
    exact Store.changeKnownTask_answer hshows.task _
  | bindAnalysis | moveSa | moveMl | claimMerge =>
    rintro rfl
    exact Store.changeTask_answer hshows.task _
  | insertGroups taskId reports =>
    intro hown
    exact congrArg Prod.fst (Store.insertGroups_own hown)
  | groupReports taskId =>
    simp only [Store.Operation.Answers, Store.Operation.perform, Store.groupReports,
      Scene.reports, hshows.groups, hshows.findings]
  | registerCompiled codeId file =>
    rintro rfl
    obtain ⟨code, hcode⟩ := Option.isSome_iff_exists.mp hshows.code
    simp only [Store.Operation.perform, Store.registerCompiled, hcode]
    split
    · exact ⟨false, rfl⟩
    · exact ⟨true, rfl⟩
  | _ => trivial

theorem System.Shows.store (hshows : system.Shows scene) (now : Timestamp)
    (operation : Store.Operation α) :
    { system with store := (operation.perform now system.store).2 : System }.Shows
      (scene.after now operation) where
  keyed := hshows.keyed.perform operation
  workflow := by
    have h := operation.get?_perform_workflow now hshows.keyed hshows.workflow
    rwa [← operation.onWorkflow_id now scene.workflow] at h
  task := by
    have h := operation.get?_perform_task now hshows.keyed hshows.task
    rwa [← operation.onTask_id now scene.task] at h
  linked := by
    have hfixed := operation.onWorkflow_fixed now scene.workflow
    have h := hshows.linked
    rwa [← Workflow.taskId_of_fixed hfixed, ← operation.onTask_id now] at h
  code := by
    have h := operation.code_known now hshows.code
    rwa [← operation.onTask_codeId now scene.task] at h
  groups := by
    rw [(operation.perform_groups now system.store).1, hshows.groups]
    rfl
  findings := by
    rw [(operation.perform_groups now system.store).2, hshows.groups, hshows.findings]
    rfl
  nextNumber := hshows.nextNumber

/-- Whatever a call does to a system, it moves the scene that the system shows. -/
theorem System.Shows.perform (hshows : system.Shows scene) (env : Environment)
    (call : Call α) :
    ∃ next, call.Moves env scene (call.perform env system).1 next ∧
      (call.perform env system).2.Shows next := by
  cases call with
  | clock | blobExists | blobUrl => exact ⟨scene, rfl, hshows⟩
  | reserve count =>
    refine ⟨_, ⟨hshows.nextNumber, rfl⟩, { hshows with nextNumber := ?_ }⟩
    exact congrArg (· + count) hshows.nextNumber
  | store operation =>
    exact ⟨_, ⟨hshows.answers env.now operation, rfl⟩, hshows.store env.now operation⟩
  | publish queue payload =>
    simp only [Call.perform, System.publish]
    split
    · exact ⟨scene, Or.inl rfl, hshows⟩
    · refine ⟨_, Or.inr rfl, { hshows with nextNumber := ?_ }⟩
      exact congrArg (· + 1) hshows.nextNumber

end ScanFlow
