import ScanFlow.Proofs.Store.Lookup
import ScanFlow.Store.Operation

/-!
What one operation of the store makes of one record.

The effect of an operation is read off record by record: what becomes of a stored
workflow, and what becomes of a stored task. A record that an operation does not name is
left as it is. Records are never taken away, and each stays under its own identifier.
-/

namespace ScanFlow

/-! ### Guarded changes keep the identity of a record -/

namespace Workflow

variable {workflow changed : Workflow}

/-- What no operation changes of a workflow: its identifier, its shape, the number of its
stages, and the identifier of its task. -/
def fixed (workflow : Workflow) : Uuid × Shape × Nat × Uuid :=
  (workflow.id, workflow.shape, workflow.steps, workflow.taskId)

section Fixed

variable (hfixed : changed.fixed = workflow.fixed)
include hfixed

theorem id_of_fixed : changed.id = workflow.id := congrArg (fun fixed => fixed.1) hfixed

theorem shape_of_fixed : changed.shape = workflow.shape :=
  congrArg (fun fixed => fixed.2.1) hfixed

theorem steps_of_fixed : changed.steps = workflow.steps :=
  congrArg (fun fixed => fixed.2.2.1) hfixed

theorem taskId_of_fixed : changed.taskId = workflow.taskId :=
  congrArg (fun fixed => fixed.2.2.2) hfixed

end Fixed

theorem advanced?_eq_some {moment : Timestamp} (h : workflow.advanced? moment = some changed) :
    workflow.isRunning = true ∧ workflow.isFullyProgressed = false ∧
      changed =
        { workflow with
          progress := workflow.progress + 1
          timeline := workflow.timeline ++ [moment]
          updatedAt := moment } := by
  unfold advanced? at h
  split at h
  · rename_i hguard
    simp only [Bool.and_eq_true, Bool.not_eq_true'] at hguard
    exact ⟨hguard.1, hguard.2, (Option.some.inj h).symm⟩
  · cases h

theorem finished?_eq_some {status : Status} {now : Timestamp}
    (h : workflow.finished? status now = some changed) :
    workflow.status.canBecome status = true ∧
      changed = { workflow with status, updatedAt := now } := by
  unfold finished? at h
  split at h
  · rename_i hguard
    exact ⟨hguard, (Option.some.inj h).symm⟩
  · cases h

end Workflow

namespace Task

variable {task changed : Task} {now : Timestamp}

theorem withArtifact?_eq_some {name key : String} {saProgress : Option Nat}
    (h : task.withArtifact? name key saProgress now = some changed) :
    (∀ bound, task.targetKey = some bound → bound = key) ∧
      changed =
        { task with
          targetName := name
          targetKey := some key
          sa := { task.sa with progress := saProgress.getD task.sa.progress }
          updatedAt := now } := by
  unfold withArtifact? at h
  split at h
  · cases h
  · rename_i hguard
    refine ⟨?_, (Option.some.inj h).symm⟩
    intro bound hbound
    simpa [hbound] using hguard

theorem withAnalysis?_eq_some {binding : AnalysisBinding}
    (h : task.withAnalysis? binding now = some changed) :
    task.snapshot = none ∧
      changed =
        { task with
          kind := some binding.kind
          snapshot := some binding.snapshot
          sa := binding.sa
          ml := binding.ml
          updatedAt := now } := by
  unfold withAnalysis? at h
  split at h
  · cases h
  · rename_i hguard
    exact ⟨by simpa using hguard, (Option.some.inj h).symm⟩

theorem withSa?_eq_some {expected : RunStatus} {next : SaRun}
    (h : task.withSa? expected next now = some changed) :
    task.sa.status = expected ∧
      changed =
        { task with sa := next, weaknessCount := next.weaknessCount, updatedAt := now } := by
  unfold withSa? at h
  split at h
  · rename_i hguard
    exact ⟨hguard, (Option.some.inj h).symm⟩
  · cases h

theorem withMl?_eq_some {expected : RunStatus} {next : MlRun}
    (h : task.withMl? expected next now = some changed) :
    task.ml.status = expected ∧ changed = { task with ml := next, updatedAt := now } := by
  unfold withMl? at h
  split at h
  · rename_i hguard
    exact ⟨hguard, (Option.some.inj h).symm⟩
  · cases h

theorem withClaim?_eq_some {summary : Summary} {count : Nat}
    (h : task.withClaim? summary count now = some changed) :
    task.mergeClaimed = false ∧ task.bothSucceeded = true ∧
      changed = { task.withSummary summary count now with mergeClaimed := true } := by
  unfold withClaim? at h
  split at h
  · cases h
  · rename_i hguard
    simp only [Bool.or_eq_true, Bool.not_eq_true', not_or, Bool.not_eq_true,
      Bool.not_eq_false] at hguard
    exact ⟨hguard.1, hguard.2, (Option.some.inj h).symm⟩

/-- How a stored task may change: by one of the guarded changes, or by what a merge at a
reviewer's wish or a decision of a reviewer records. -/
inductive Written (now : Timestamp) (task : Task) : Task → Prop where
  | artifact {name key : String} {saProgress : Option Nat} {next : Task}
      (h : task.withArtifact? name key saProgress now = some next) : Written now task next
  | analysis {binding : AnalysisBinding} {next : Task}
      (h : task.withAnalysis? binding now = some next) : Written now task next
  | sa {expected : RunStatus} {run : SaRun} {next : Task}
      (h : task.withSa? expected run now = some next) : Written now task next
  | ml {expected : RunStatus} {run : MlRun} {next : Task}
      (h : task.withMl? expected run now = some next) : Written now task next
  | claim {summary : Summary} {count : Nat} {next : Task}
      (h : task.withClaim? summary count now = some next) : Written now task next
  | summary (summary : Summary) (count : Nat) :
      Written now task (task.withSummary summary count now)
  | audits (count : Nat) : Written now task { task with auditCount := count }

namespace Written

theorem ids (h : task.Written now changed) :
    (changed.id, changed.codeId) = (task.id, task.codeId) := by
  cases h with
  | artifact h => rw [(withArtifact?_eq_some h).2]
  | analysis h => rw [(withAnalysis?_eq_some h).2]
  | sa h => rw [(withSa?_eq_some h).2]
  | ml h => rw [(withMl?_eq_some h).2]
  | claim h =>
    rw [(withClaim?_eq_some h).2.2]
    rfl
  | summary | audits => rfl

/-- An artifact that is bound stays bound. -/
theorem targetKey {key : String} (h : task.Written now changed)
    (hkey : task.targetKey = some key) : changed.targetKey = some key := by
  cases h with
  | artifact h =>
    obtain ⟨hbound, rfl⟩ := withArtifact?_eq_some h
    exact congrArg some (hbound key hkey).symm
  | analysis h => rw [(withAnalysis?_eq_some h).2, hkey]
  | sa h => rw [(withSa?_eq_some h).2, hkey]
  | ml h => rw [(withMl?_eq_some h).2, hkey]
  | claim h =>
    rw [(withClaim?_eq_some h).2.2]
    exact hkey
  | summary | audits => exact hkey

/-- A snapshot that is bound stays bound. -/
theorem snapshot {snapshot : TemplateSnapshot} (h : task.Written now changed)
    (hsnapshot : task.snapshot = some snapshot) : changed.snapshot = some snapshot := by
  cases h with
  | artifact h => rw [(withArtifact?_eq_some h).2, hsnapshot]
  | analysis h => cases hsnapshot.symm.trans (withAnalysis?_eq_some h).1
  | sa h => rw [(withSa?_eq_some h).2, hsnapshot]
  | ml h => rw [(withMl?_eq_some h).2, hsnapshot]
  | claim h =>
    rw [(withClaim?_eq_some h).2.2]
    exact hsnapshot
  | summary | audits => exact hsnapshot

end Written

end Task

namespace Store

variable {α : Type} {store : Store} {now : Timestamp}

structure Keyed (store : Store) : Prop where
  workflows : ∀ id workflow, store.workflows.get? id = some workflow → workflow.id = id
  tasks : ∀ id task, store.tasks.get? id = some task → task.id = id
  codes : ∀ id code, store.codes.get? id = some code → code.id = id

/-- Edits of the catalog touch neither workflows nor tasks nor codes. -/
theorem Keyed.putRule (hkeyed : store.Keyed) (rule : Rule) : (store.putRule rule).Keyed :=
  ⟨hkeyed.workflows, hkeyed.tasks, hkeyed.codes⟩

theorem Keyed.putTemplate (hkeyed : store.Keyed) (template : RuleTemplate) :
    (store.putTemplate template).Keyed :=
  ⟨hkeyed.workflows, hkeyed.tasks, hkeyed.codes⟩

/-! ### What each kind of change leaves alone -/

theorem changeWorkflow_rest (store : Store) (id : Uuid) (change : Workflow → Option Workflow) :
    ∃ workflows, (store.changeWorkflow id change).2 = { store with workflows } := by
  unfold changeWorkflow
  split
  · exact ⟨_, rfl⟩
  · exact ⟨_, rfl⟩

theorem changeTask_rest (store : Store) (id : Uuid) (change : Task → Option Task) :
    ∃ tasks, (store.changeTask id change).2 = { store with tasks } := by
  unfold changeTask
  split
  · exact ⟨_, rfl⟩
  · exact ⟨_, rfl⟩

theorem changeKnownTask_store (store : Store) (id : Uuid) (change : Task → Option Task) :
    (store.changeKnownTask id change).2 = (store.changeTask id change).2 := by
  unfold changeKnownTask
  split
  · rfl
  · rename_i hmissing
    have hnone : store.tasks.get? id = none :=
      SortedMap.contains_eq_false_iff.mp (by simpa using hmissing)
    simp [changeTask, hnone]

theorem insertGroups_rest (store : Store) (taskId : Uuid) (reports : List GroupReport) :
    ∃ groups findings, (store.insertGroups taskId reports).2 = { store with groups, findings } := by
  unfold insertGroups
  split
  · exact ⟨_, _, rfl⟩
  · exact ⟨_, _, rfl⟩

theorem setAudit_rest (store : Store) (id : Uuid) (audit : Audit) :
    ∃ findings, (store.setAudit id audit).2 = { store with findings } := by
  unfold setAudit
  split
  · exact ⟨_, rfl⟩
  · exact ⟨_, rfl⟩

theorem registerCompiled_rest (store : Store) (codeId : Uuid) (file : StoredFile) :
    ∃ codes files, (store.registerCompiled codeId file).2 = { store with codes, files } := by
  unfold registerCompiled
  split
  · exact ⟨_, _, rfl⟩
  · split
    · exact ⟨_, _, rfl⟩
    · exact ⟨_, _, rfl⟩

/-! ### The record that is changed -/

theorem get?_changeWorkflow (store : Store) (id other : Uuid)
    (change : Workflow → Option Workflow) :
    (store.changeWorkflow id change).2.workflows.get? other =
      if other = id then
        (store.workflows.get? id).map fun workflow => (change workflow).getD workflow
      else store.workflows.get? other := by
  unfold changeWorkflow
  cases hfound : store.workflows.get? id with
  | none =>
    by_cases hother : other = id
    · simp [hother, hfound]
    · simp [hother]
  | some workflow =>
    cases hchange : change workflow with
    | none =>
      by_cases hother : other = id
      · simp [hother, hfound, hchange]
      · simp [hother, hchange]
    | some changed =>
      by_cases hother : other = id
      · simp [hother, hchange]
      · simp [hother, hchange, SortedMap.get?_insert]

theorem get?_changeTask (store : Store) (id other : Uuid) (change : Task → Option Task) :
    (store.changeTask id change).2.tasks.get? other =
      if other = id then (store.tasks.get? id).map fun task => (change task).getD task
      else store.tasks.get? other := by
  unfold changeTask
  cases hfound : store.tasks.get? id with
  | none =>
    by_cases hother : other = id
    · simp [hother, hfound]
    · simp [hother]
  | some task =>
    cases hchange : change task with
    | none =>
      by_cases hother : other = id
      · simp [hother, hfound, hchange]
      · simp [hother, hchange]
    | some changed =>
      by_cases hother : other = id
      · simp [hother, hchange]
      · simp [hother, hchange, SortedMap.get?_insert]

theorem changeWorkflow_answer {id : Uuid} {workflow : Workflow}
    (hfound : store.workflows.get? id = some workflow) (change : Workflow → Option Workflow) :
    (store.changeWorkflow id change).1 = change workflow := by
  unfold changeWorkflow
  cases hchange : change workflow with
  | none => simp [hfound, hchange]
  | some changed => simp [hfound, hchange]

theorem changeTask_answer {id : Uuid} {task : Task}
    (hfound : store.tasks.get? id = some task) (change : Task → Option Task) :
    (store.changeTask id change).1 = (change task).isSome := by
  unfold changeTask
  cases hchange : change task with
  | none => simp [hfound, hchange]
  | some changed => simp [hfound, hchange]

theorem changeKnownTask_answer {id : Uuid} {task : Task}
    (hfound : store.tasks.get? id = some task) (change : Task → Option Task) :
    (store.changeKnownTask id change).1 = .ok (change task).isSome := by
  have hknown : store.tasks.contains id = true := SortedMap.contains_iff.mpr ⟨task, hfound⟩
  unfold changeKnownTask
  rw [if_pos hknown, ← changeTask_answer hfound change]

theorem changeWorkflow_eq_some {id : Uuid} {change : Workflow → Option Workflow}
    {next : Workflow} (h : (store.changeWorkflow id change).1 = some next) :
    ∃ workflow, store.workflows.get? id = some workflow ∧ change workflow = some next ∧
      (store.changeWorkflow id change).2.workflows.get? id = some next := by
  cases hfound : store.workflows.get? id with
  | none => simp [changeWorkflow, hfound] at h
  | some workflow =>
    have hchange := (changeWorkflow_answer hfound change).symm.trans h
    refine ⟨workflow, rfl, hchange, ?_⟩
    rw [get?_changeWorkflow, if_pos rfl, hfound, Option.map_some, hchange, Option.getD_some]

theorem changeTask_eq_true {id : Uuid} {change : Task → Option Task}
    (h : (store.changeTask id change).1 = true) :
    ∃ task next, store.tasks.get? id = some task ∧ change task = some next ∧
      (store.changeTask id change).2.tasks.get? id = some next := by
  cases hfound : store.tasks.get? id with
  | none => simp [changeTask, hfound] at h
  | some task =>
    have hsome := (changeTask_answer hfound change).symm.trans h
    obtain ⟨next, hchange⟩ := Option.isSome_iff_exists.mp hsome
    refine ⟨task, next, rfl, hchange, ?_⟩
    rw [get?_changeTask, if_pos rfl, hfound, Option.map_some, hchange, Option.getD_some]

/-! ### One operation, record by record -/

namespace Operation

def workflowChange? (now : Timestamp) : Operation α → Option (Uuid × (Workflow → Option Workflow))
  | .advance id moment => some (id, fun workflow => workflow.advanced? moment)
  | .finish id status => some (id, fun workflow => workflow.finished? status now)
  | _ => none

def taskChange? (now : Timestamp) : Operation α → Option (Uuid × (Task → Option Task))
  | .setArtifact id name key saProgress =>
    some (id, fun task => task.withArtifact? name key saProgress now)
  | .bindAnalysis id binding => some (id, fun task => task.withAnalysis? binding now)
  | .moveSa id expected next => some (id, fun task => task.withSa? expected next now)
  | .moveMl id expected next => some (id, fun task => task.withMl? expected next now)
  | .claimMerge id summary count => some (id, fun task => task.withClaim? summary count now)
  | .storeSummary id summary count =>
    some (id, fun task => some (task.withSummary summary count now))
  | .setAuditCount id count => some (id, fun task => some { task with auditCount := count })
  | _ => none

/-- Only one operation adds a workflow, and with it a task. -/
def creates : Operation α → Bool
  | .createWorkflow _ _ => true
  | _ => false

def changed {ρ : Type} (identity : ρ → Uuid) (change? : Option (Uuid × (ρ → Option ρ)))
    (record : ρ) : ρ :=
  match change? with
  | some (id, change) => if id = identity record then (change record).getD record else record
  | none => record

def onWorkflow (now : Timestamp) (operation : Operation α) (workflow : Workflow) : Workflow :=
  changed Workflow.id (operation.workflowChange? now) workflow

def onTask (now : Timestamp) (operation : Operation α) (task : Task) : Task :=
  changed Task.id (operation.taskChange? now) task

variable {operation : Operation α}

theorem perform_workflowChange {id : Uuid} {change : Workflow → Option Workflow}
    (h : operation.workflowChange? now = some (id, change)) :
    (operation.perform now store).2 = (store.changeWorkflow id change).2 := by
  cases operation with
  | advance | finish =>
    obtain ⟨rfl, rfl⟩ := Prod.mk.inj (Option.some.inj h)
    rfl
  | _ => cases h

theorem perform_taskChange {id : Uuid} {change : Task → Option Task}
    (h : operation.taskChange? now = some (id, change)) :
    (operation.perform now store).2 = (store.changeTask id change).2 := by
  cases operation with
  | setArtifact | storeSummary | setAuditCount =>
    obtain ⟨rfl, rfl⟩ := Prod.mk.inj (Option.some.inj h)
    exact changeKnownTask_store store _ _
  | bindAnalysis | moveSa | moveMl | claimMerge =>
    obtain ⟨rfl, rfl⟩ := Prod.mk.inj (Option.some.inj h)
    rfl
  | _ => cases h

/-- All other operations leave both tables alone. -/
theorem perform_rest (hworkflow : operation.workflowChange? now = none)
    (htask : operation.taskChange? now = none) (hold : operation.creates = false) :
    (operation.perform now store).2.workflows = store.workflows ∧
      (operation.perform now store).2.tasks = store.tasks := by
  cases operation with
  | createWorkflow => cases hold
  | advance | finish => cases hworkflow
  | setArtifact | storeSummary | setAuditCount | bindAnalysis | moveSa | moveMl | claimMerge =>
    cases htask
  | insertGroups taskId reports =>
    obtain ⟨groups, findings, hrest⟩ := insertGroups_rest store taskId reports
    simp [perform, hrest]
  | setAudit id audit =>
    obtain ⟨findings, hrest⟩ := setAudit_rest store id audit
    simp [perform, hrest]
  | registerCompiled codeId file =>
    obtain ⟨codes, files, hrest⟩ := registerCompiled_rest store codeId file
    simp [perform, hrest]
  | _ => exact ⟨rfl, rfl⟩

theorem perform_workflows (hchange : operation.workflowChange? now = none)
    (hold : operation.creates = false) :
    (operation.perform now store).2.workflows = store.workflows := by
  cases htask : operation.taskChange? now with
  | some named =>
    obtain ⟨tasks, hrest⟩ := changeTask_rest store named.1 named.2
    rw [perform_taskChange htask, hrest]
  | none => exact (perform_rest hchange htask hold).1

theorem perform_tasks (hchange : operation.taskChange? now = none)
    (hold : operation.creates = false) :
    (operation.perform now store).2.tasks = store.tasks := by
  cases hworkflow : operation.workflowChange? now with
  | some named =>
    obtain ⟨workflows, hrest⟩ := changeWorkflow_rest store named.1 named.2
    rw [perform_workflowChange hworkflow, hrest]
  | none => exact (perform_rest hworkflow hchange hold).2

theorem changed_eq_self {ρ : Type} (identity : ρ → Uuid) (record : ρ) :
    changed identity none record = record := rfl

/-- The table of workflows after an operation that adds none. -/
theorem get?_perform_workflows (now : Timestamp) (hkeyed : store.Keyed)
    (hold : operation.creates = false) (id : Uuid) :
    (operation.perform now store).2.workflows.get? id =
      (store.workflows.get? id).map (operation.onWorkflow now) := by
  unfold onWorkflow
  cases hworkflow : operation.workflowChange? now with
  | some named =>
    rw [perform_workflowChange hworkflow, get?_changeWorkflow]
    cases hfound : store.workflows.get? id with
    | none =>
      by_cases hid : id = named.1
      · simp [hid, hid ▸ hfound]
      · simp [hid]
    | some workflow =>
      have hown : workflow.id = id := hkeyed.workflows id workflow hfound
      by_cases hid : id = named.1
      · simp [changed, hid, hid ▸ hfound, hid ▸ hown]
      · simp [changed, hid, hown, Ne.symm hid]
  | none =>
    rw [perform_workflows hworkflow hold,
      Option.map_congr fun workflow _ => changed_eq_self Workflow.id workflow]
    simp

/-- The table of tasks after an operation that adds none. -/
theorem get?_perform_tasks (now : Timestamp) (hkeyed : store.Keyed)
    (hold : operation.creates = false) (id : Uuid) :
    (operation.perform now store).2.tasks.get? id =
      (store.tasks.get? id).map (operation.onTask now) := by
  unfold onTask
  cases htask : operation.taskChange? now with
  | some named =>
    rw [perform_taskChange htask, get?_changeTask]
    cases hfound : store.tasks.get? id with
    | none =>
      by_cases hid : id = named.1
      · simp [hid, hid ▸ hfound]
      · simp [hid]
    | some task =>
      have hown : task.id = id := hkeyed.tasks id task hfound
      by_cases hid : id = named.1
      · simp [changed, hid, hid ▸ hfound, hid ▸ hown]
      · simp [changed, hid, hown, Ne.symm hid]
  | none =>
    rw [perform_tasks htask hold, Option.map_congr fun task _ => changed_eq_self Task.id task]
    simp

/-! ### What no operation changes -/

theorem getD_keeps {ρ β : Type} {next? : Option ρ} {record : ρ} (view : ρ → β)
    (h : ∀ next, next? = some next → view next = view record) :
    view (next?.getD record) = view record := by
  cases next? with
  | none => rfl
  | some next => exact h next rfl

theorem changed_keeps {ρ β : Type} {identity : ρ → Uuid}
    {change? : Option (Uuid × (ρ → Option ρ))} (view : ρ → β) (record : ρ)
    (hkeeps : ∀ id change, change? = some (id, change) →
      ∀ next, change record = some next → view next = view record) :
    view (changed identity change? record) = view record := by
  unfold changed
  split
  · rename_i id change
    split
    · exact getD_keeps view fun next hnext => hkeeps id change rfl next hnext
    · rfl
  · rfl

/-- A workflow is left alone, or advanced by one stage, or ended. -/
theorem onWorkflow_cases (now : Timestamp) (operation : Operation α) (workflow : Workflow) :
    operation.onWorkflow now workflow = workflow ∨
      (∃ moment, workflow.isRunning = true ∧ workflow.isFullyProgressed = false ∧
        operation.onWorkflow now workflow =
          { workflow with
            progress := workflow.progress + 1
            timeline := workflow.timeline ++ [moment]
            updatedAt := moment }) ∨
      ∃ status, workflow.status.canBecome status = true ∧
        operation.onWorkflow now workflow = { workflow with status, updatedAt := now } := by
  cases operation with
  | advance id moment =>
    simp only [onWorkflow, workflowChange?, changed]
    split
    · cases hnext : workflow.advanced? moment with
      | none => exact Or.inl rfl
      | some next =>
        obtain ⟨hrunning, hleft, rfl⟩ := Workflow.advanced?_eq_some hnext
        exact Or.inr (Or.inl ⟨moment, hrunning, hleft, rfl⟩)
    · exact Or.inl rfl
  | finish id status =>
    simp only [onWorkflow, workflowChange?, changed]
    split
    · cases hnext : workflow.finished? status now with
      | none => exact Or.inl rfl
      | some next =>
        obtain ⟨hmay, rfl⟩ := Workflow.finished?_eq_some hnext
        exact Or.inr (Or.inr ⟨status, hmay, rfl⟩)
    · exact Or.inl rfl
  | _ => exact Or.inl rfl

theorem onWorkflow_fixed (now : Timestamp) (operation : Operation α) (workflow : Workflow) :
    (operation.onWorkflow now workflow).fixed = workflow.fixed := by
  rcases onWorkflow_cases now operation workflow with h | ⟨_, _, _, h⟩ | ⟨_, _, h⟩
  · rw [h]
  · rw [h]
    rfl
  · rw [h]
    rfl

theorem onWorkflow_id (now : Timestamp) (operation : Operation α) (workflow : Workflow) :
    (operation.onWorkflow now workflow).id = workflow.id :=
  Workflow.id_of_fixed (onWorkflow_fixed now operation workflow)

theorem onWorkflow_limits (now : Timestamp) (operation : Operation α) (workflow : Workflow) :
    (operation.onWorkflow now workflow).limits = workflow.limits := by
  rcases onWorkflow_cases now operation workflow with h | ⟨_, _, _, h⟩ | ⟨_, _, h⟩
  · rw [h]
  · rw [h]
  · rw [h]

theorem onWorkflow_codeId (now : Timestamp) (operation : Operation α) (workflow : Workflow) :
    (operation.onWorkflow now workflow).codeId = workflow.codeId := by
  rcases onWorkflow_cases now operation workflow with h | ⟨_, _, _, h⟩ | ⟨_, _, h⟩
  · rw [h]
  · rw [h]
  · rw [h]

/-- A workflow that cannot be advanced cannot be advanced later either. -/
theorem onWorkflow_stopped (now : Timestamp) (operation : Operation α) {workflow : Workflow}
    (h : workflow.isRunning = false ∨ workflow.isFullyProgressed = true) :
    (operation.onWorkflow now workflow).isRunning = false ∨
      (operation.onWorkflow now workflow).isFullyProgressed = true := by
  rcases onWorkflow_cases now operation workflow with
    hsame | ⟨_, hrunning, hleft, _⟩ | ⟨status, hmay, hsame⟩
  · rw [hsame]
    exact h
  · rcases h with h | h
    · cases h.symm.trans hrunning
    · cases h.symm.trans hleft
  · rw [hsame]
    cases status with
    | running =>
      cases hstatus : workflow.status <;> simp [hstatus, Workflow.Status.canBecome] at hmay
    | complete | aborted => exact Or.inl rfl

theorem changed_cases {ρ : Type} (identity : ρ → Uuid)
    (change? : Option (Uuid × (ρ → Option ρ))) (record : ρ) :
    changed identity change? record = record ∨
      ∃ id change, change? = some (id, change) ∧
        change record = some (changed identity change? record) := by
  unfold changed
  split
  · rename_i id change
    split
    · cases hnext : change record with
      | none => exact Or.inl rfl
      | some next => exact Or.inr ⟨id, change, rfl, hnext⟩
    · exact Or.inl rfl
  · exact Or.inl rfl

/-- The changes that operations make of tasks are the ways there are to change one. -/
theorem taskChange?_written {id : Uuid} {change : Task → Option Task} {task next : Task}
    (hchange : operation.taskChange? now = some (id, change)) (hnext : change task = some next) :
    task.Written now next := by
  cases operation with
  | setArtifact =>
    obtain ⟨rfl, rfl⟩ := Prod.mk.inj (Option.some.inj hchange)
    exact .artifact hnext
  | bindAnalysis =>
    obtain ⟨rfl, rfl⟩ := Prod.mk.inj (Option.some.inj hchange)
    exact .analysis hnext
  | moveSa =>
    obtain ⟨rfl, rfl⟩ := Prod.mk.inj (Option.some.inj hchange)
    exact .sa hnext
  | moveMl =>
    obtain ⟨rfl, rfl⟩ := Prod.mk.inj (Option.some.inj hchange)
    exact .ml hnext
  | claimMerge =>
    obtain ⟨rfl, rfl⟩ := Prod.mk.inj (Option.some.inj hchange)
    exact .claim hnext
  | storeSummary =>
    obtain ⟨rfl, rfl⟩ := Prod.mk.inj (Option.some.inj hchange)
    rw [← Option.some.inj hnext]
    exact .summary _ _
  | setAuditCount =>
    obtain ⟨rfl, rfl⟩ := Prod.mk.inj (Option.some.inj hchange)
    rw [← Option.some.inj hnext]
    exact .audits _
  | _ => cases hchange

/-- A task is left alone, or changed in one of the ways there are. -/
theorem onTask_cases (now : Timestamp) (operation : Operation α) (task : Task) :
    operation.onTask now task = task ∨ task.Written now (operation.onTask now task) := by
  rcases changed_cases Task.id (operation.taskChange? now) task with
    hsame | ⟨id, change, hchange, hnext⟩
  · exact Or.inl hsame
  · exact Or.inr (taskChange?_written hchange hnext)

theorem onTask_ids (now : Timestamp) (operation : Operation α) (task : Task) :
    ((operation.onTask now task).id, (operation.onTask now task).codeId) =
      (task.id, task.codeId) := by
  rcases onTask_cases now operation task with hsame | hwritten
  · rw [hsame]
  · exact hwritten.ids

theorem onTask_targetKey (now : Timestamp) (operation : Operation α) {task : Task}
    {key : String} (hkey : task.targetKey = some key) :
    (operation.onTask now task).targetKey = some key := by
  rcases onTask_cases now operation task with hsame | hwritten
  · rw [hsame, hkey]
  · exact hwritten.targetKey hkey

theorem onTask_snapshot (now : Timestamp) (operation : Operation α) {task : Task}
    {snapshot : TemplateSnapshot} (hsnapshot : task.snapshot = some snapshot) :
    (operation.onTask now task).snapshot = some snapshot := by
  rcases onTask_cases now operation task with hsame | hwritten
  · rw [hsame, hsnapshot]
  · exact hwritten.snapshot hsnapshot

theorem onTask_id (now : Timestamp) (operation : Operation α) (task : Task) :
    (operation.onTask now task).id = task.id :=
  (Prod.mk.inj (onTask_ids now operation task)).1

theorem onTask_codeId (now : Timestamp) (operation : Operation α) (task : Task) :
    (operation.onTask now task).codeId = task.codeId :=
  (Prod.mk.inj (onTask_ids now operation task)).2

/-! ### The tables as a whole -/

/-- Codes are only ever put under their own identifiers. -/
theorem perform_codes (now : Timestamp) (operation : Operation α) (store : Store) :
    (operation.perform now store).2.codes = store.codes ∨
      ∃ code : Code, (operation.perform now store).2.codes = store.codes.insert code.id code := by
  cases operation with
  | createCode code source => exact Or.inr ⟨code, rfl⟩
  | registerCompiled codeId file =>
    simp only [perform, Store.registerCompiled]
    split
    · exact Or.inl rfl
    · rename_i code hfound
      split
      · exact Or.inl rfl
      · exact Or.inr ⟨{ code with compiledFileId := some file.id }, rfl⟩
  | createWorkflow workflow task =>
    simp only [perform, Store.createWorkflow]
    split
    · exact Or.inl rfl
    · exact Or.inl rfl
  | advance | finish =>
    obtain ⟨workflows, hrest⟩ := changeWorkflow_rest store _ _
    exact Or.inl (by rw [perform_workflowChange rfl, hrest])
  | setArtifact | storeSummary | setAuditCount | bindAnalysis | moveSa | moveMl | claimMerge =>
    obtain ⟨tasks, hrest⟩ := changeTask_rest store _ _
    exact Or.inl (by rw [perform_taskChange rfl, hrest])
  | insertGroups taskId reports =>
    obtain ⟨groups, findings, hrest⟩ := insertGroups_rest store taskId reports
    exact Or.inl (by simp [perform, hrest])
  | setAudit id audit =>
    obtain ⟨findings, hrest⟩ := setAudit_rest store id audit
    exact Or.inl (by simp [perform, hrest])
  | _ => exact Or.inl rfl

/-- A known code stays known. -/
theorem code_known (now : Timestamp) (operation : Operation α) {id : Uuid}
    (h : (store.codes.get? id).isSome) :
    ((operation.perform now store).2.codes.get? id).isSome := by
  rcases perform_codes now operation store with hsame | ⟨code, hinsert⟩
  · rwa [hsame]
  · rw [hinsert, SortedMap.get?_insert]
    split
    · rfl
    · exact h

theorem perform_codes_keyed (now : Timestamp) (operation : Operation α)
    (hkeyed : store.Keyed) (id : Uuid) (code : Code)
    (h : (operation.perform now store).2.codes.get? id = some code) :
    code.id = id := by
  rcases perform_codes now operation store with hsame | ⟨own, hinsert⟩
  · exact hkeyed.codes id code (hsame ▸ h)
  · rw [hinsert, SortedMap.get?_insert] at h
    split at h
    · rename_i hid
      rw [hid, Option.some.inj h]
    · exact hkeyed.codes id code h

end Operation

/-- A workflow and its task are added together where neither is there yet. -/
theorem createWorkflow_cases (store : Store) (workflow : Workflow) (task : Task) :
    store.createWorkflow workflow task = (.error (.alreadyExists workflow.id task.id), store) ∨
      store.workflows.get? workflow.id = none ∧ store.tasks.get? task.id = none ∧
        store.createWorkflow workflow task =
          (.ok (),
            { store with
              tasks := store.tasks.insert task.id task
              workflows := store.workflows.insert workflow.id workflow }) := by
  unfold createWorkflow
  split
  · exact Or.inl rfl
  · rename_i hguard
    simp only [Bool.or_eq_true, not_or, Bool.not_eq_true,
      SortedMap.contains_eq_false_iff] at hguard
    exact Or.inr ⟨hguard.1, hguard.2, rfl⟩

/-- A workflow that has been created is stored, and was not stored before. -/
theorem createWorkflow_eq_ok {workflow : Workflow} {task : Task}
    (h : (store.createWorkflow workflow task).1 = .ok ()) :
    store.workflows.get? workflow.id = none ∧
      (store.createWorkflow workflow task).2.workflows.get? workflow.id = some workflow := by
  rcases createWorkflow_cases store workflow task with hsame | ⟨hnone, _, hadded⟩
  · simp [hsame] at h
  · refine ⟨hnone, ?_⟩
    rw [hadded]
    exact SortedMap.get?_insert_self _ _ _

theorem Keyed.perform (hkeyed : store.Keyed) (operation : Operation α) :
    (operation.perform now store).2.Keyed := by
  have hcodes := operation.perform_codes_keyed now hkeyed
  by_cases hold : operation.creates = false
  · refine ⟨?_, ?_, hcodes⟩
    · intro id workflow h
      rw [Operation.get?_perform_workflows now hkeyed hold] at h
      obtain ⟨before, hbefore, rfl⟩ := Option.map_eq_some_iff.mp h
      rw [Operation.onWorkflow_id, hkeyed.workflows id before hbefore]
    · intro id task h
      rw [Operation.get?_perform_tasks now hkeyed hold] at h
      obtain ⟨before, hbefore, rfl⟩ := Option.map_eq_some_iff.mp h
      rw [Operation.onTask_id, hkeyed.tasks id before hbefore]
  · cases operation with
    | createWorkflow workflow task =>
      rcases createWorkflow_cases store workflow task with hsame | ⟨_, _, hadded⟩
      · simpa [Operation.perform, hsame] using hkeyed
      · refine ⟨?_, ?_, hcodes⟩
        · intro id found h
          simp only [Operation.perform, hadded, SortedMap.get?_insert] at h
          split at h
          · rename_i hid
            rw [hid, Option.some.inj h]
          · exact hkeyed.workflows id found h
        · intro id found h
          simp only [Operation.perform, hadded, SortedMap.get?_insert] at h
          split at h
          · rename_i hid
            rw [hid, Option.some.inj h]
          · exact hkeyed.tasks id found h
    | _ => exact absurd rfl hold

namespace Operation

def Adds (operation : Operation α) (workflow : Workflow) : Prop :=
  match operation with
  | .createWorkflow added _ => added = workflow
  | _ => False

/-- A workflow that is stored afterwards has been stored before, or has just been added. -/
theorem stored_workflow (now : Timestamp) (hkeyed : store.Keyed) (operation : Operation α)
    {id : Uuid} {workflow : Workflow}
    (hstored : (operation.perform now store).2.workflows.get? id = some workflow) :
    (∃ before, store.workflows.get? id = some before ∧
        operation.onWorkflow now before = workflow) ∨ operation.Adds workflow := by
  by_cases hold : operation.creates = false
  · rw [get?_perform_workflows now hkeyed hold] at hstored
    exact Or.inl (Option.map_eq_some_iff.mp hstored)
  · cases operation with
    | createWorkflow created task =>
      rcases createWorkflow_cases store created task with hsame | ⟨_, _, hadded⟩
      · simp only [perform, hsame] at hstored
        exact Or.inl ⟨workflow, hstored, rfl⟩
      · simp only [perform, hadded, SortedMap.get?_insert] at hstored
        split at hstored
        · exact Or.inr (Option.some.inj hstored)
        · exact Or.inl ⟨workflow, hstored, rfl⟩
    | _ => exact absurd rfl hold

/-- A stored workflow after any operation. -/
theorem get?_perform_workflow (now : Timestamp) (hkeyed : store.Keyed) (operation : Operation α)
    {workflow : Workflow} (h : store.workflows.get? workflow.id = some workflow) :
    (operation.perform now store).2.workflows.get? workflow.id =
      some (operation.onWorkflow now workflow) := by
  by_cases hold : operation.creates = false
  · rw [get?_perform_workflows now hkeyed hold, h, Option.map_some]
  · cases operation with
    | createWorkflow other task =>
      rcases createWorkflow_cases store other task with hsame | ⟨hnone, _, hadded⟩
      · simp only [perform, hsame]
        exact h
      · have hne : workflow.id ≠ other.id := by
          intro heq
          rw [← heq, h] at hnone
          cases hnone
        simp only [perform, hadded]
        rw [SortedMap.get?_insert_of_ne _ _ _ hne]
        exact h
    | _ => exact absurd rfl hold

/-- A stored task after any operation. -/
theorem get?_perform_task (now : Timestamp) (hkeyed : store.Keyed) (operation : Operation α)
    {task : Task} (h : store.tasks.get? task.id = some task) :
    (operation.perform now store).2.tasks.get? task.id =
      some (operation.onTask now task) := by
  by_cases hold : operation.creates = false
  · rw [get?_perform_tasks now hkeyed hold, h, Option.map_some]
  · cases operation with
    | createWorkflow workflow other =>
      rcases createWorkflow_cases store workflow other with hsame | ⟨_, hnone, hadded⟩
      · simp only [perform, hsame]
        exact h
      · have hne : task.id ≠ other.id := by
          intro heq
          rw [← heq, h] at hnone
          cases hnone
        simp only [perform, hadded]
        rw [SortedMap.get?_insert_of_ne _ _ _ hne]
        exact h
    | _ => exact absurd rfl hold

end Operation

end Store

end ScanFlow
