import ScanFlow.Proofs.Outcome
import ScanFlow.Workflow

/-!
The phases of a workflow and its task.

Between two services a workflow waits for the compiler, or for the engines of its
analysis, or it has ended. A phase ties together what is stored apart: the progress of the
workflow, the artifact and the snapshot of its task, and the two engine runs.
-/

namespace ScanFlow

structure Matched (workflow : Workflow) (task : Task) : Prop where
  steps : workflow.steps = workflow.shape.steps
  kind : task.kind = workflow.shape.taskKind?

def someEnded (shape : Shape) (task : Task) : Bool :=
  shape.runsSa && task.sa.status.isTerminal || shape.runsMl && task.ml.status.isTerminal

def someAwaited (shape : Shape) (task : Task) : Bool :=
  shape.runsSa && !task.sa.status.isTerminal || shape.runsMl && !task.ml.status.isTerminal

structure Succeeded (shape : Shape) (task : Task) : Prop where
  sa : shape.runsSa = true → task.sa.status = .success
  ml : shape.runsMl = true → task.ml.status = .success

/-- The compiler has not answered yet: nothing is bound, and no engine run has moved. -/
structure Compiling (workflow : Workflow) (task : Task) : Prop where
  running : workflow.status = .running
  progress : workflow.progress = 0
  shape : workflow.shape.runsCompile = true
  target : task.targetKey = none
  snapshot : task.snapshot = none
  sa : task.sa.status = .pending
  ml : task.ml.status = .pending
  unclaimed : task.mergeClaimed = false

structure Dispatched (shape : Shape) (task : Task) : Prop where
  target : task.targetKey.isSome
  snapshot : task.snapshot.isSome
  sa : shape.runsSa = true → task.sa.status ≠ .pending
  ml : shape.runsMl = true → task.ml.status ≠ .pending
  unclaimed : task.mergeClaimed = false

/-- Some engine has not answered yet. The last stage counts as done as soon as the first
engine has answered. -/
structure Analysing (workflow : Workflow) (task : Task) : Prop where
  running : workflow.status = .running
  dispatched : Dispatched workflow.shape task
  awaited : someAwaited workflow.shape task = true
  progress : workflow.progress + (if someEnded workflow.shape task then 0 else 1) = workflow.steps

structure Completed (workflow : Workflow) (task : Task) : Prop where
  complete : workflow.status = .complete
  progress : workflow.progress = workflow.steps
  target : task.targetKey.isSome
  succeeded : Succeeded workflow.shape task

/-- Where a workflow and its task can stand between two services. -/
inductive Phase (workflow : Workflow) (task : Task) : Prop where
  | compiling (h : Compiling workflow task)
  | analysing (h : Analysing workflow task)
  | completed (h : Completed workflow task)
  | aborted (h : workflow.status = .aborted)

/-- An engine runs only while its workflow waits for the analysis. -/
theorem Phase.analysing_of_started {workflow : Workflow} {task : Task}
    (hphase : Phase workflow task) (hrunning : workflow.status = .running)
    (hstarted : task.sa.status = .running ∨ task.ml.status = .running) :
    Analysing workflow task := by
  cases hphase with
  | compiling h =>
    rw [h.sa, h.ml] at hstarted
    rcases hstarted with hsa | hml
    · cases hsa
    · cases hml
  | analysing h => exact h
  | completed h => cases h.complete.symm.trans hrunning
  | aborted h => cases h.symm.trans hrunning

namespace Shape

theorem taskKind?_includesSa (shape : Shape) :
    shape.taskKind?.any Task.Kind.includesSa = shape.runsSa := by
  cases shape <;> rfl

theorem taskKind?_includesMl (shape : Shape) :
    shape.taskKind?.any Task.Kind.includesMl = shape.runsMl := by
  cases shape <;> rfl

end Shape

namespace Matched

variable {workflow : Workflow} {task : Task}

theorem runsSa (h : Matched workflow task) : task.runsSa = workflow.shape.runsSa := by
  rw [Task.runsSa, h.kind, Shape.taskKind?_includesSa]

theorem runsMl (h : Matched workflow task) : task.runsMl = workflow.shape.runsMl := by
  rw [Task.runsMl, h.kind, Shape.taskKind?_includesMl]

end Matched

/-! ### Starting and ending an engine run -/

theorem RunStatus.become_eq_ok {status next reached : RunStatus}
    (h : status.become next = .ok reached) : status.canBecome next = true ∧ reached = next := by
  unfold RunStatus.become at h
  split at h
  · rename_i hmay
    cases h
    exact ⟨hmay, rfl⟩
  · cases h

/-- A run that may still become something has not ended. -/
theorem RunStatus.open_of_canBecome {status next : RunStatus}
    (hmay : status.canBecome next = true) : status.isTerminal = false := by
  cases status with
  | pending | running => rfl
  | success | exception => cases hmay

theorem RunStatus.ofSuccess_isTerminal (succeeded : Bool) :
    (RunStatus.ofSuccess succeeded).isTerminal = true := by
  cases succeeded with
  | true => rfl
  | false => rfl

theorem SaRun.started_eq_ok {run next : SaRun} {moment : Timestamp}
    (h : run.started moment = .ok next) :
    run.status.canBecome .running = true ∧
      next = { run with status := .running, startedAt := some moment } := by
  obtain ⟨status, hbecome, h⟩ := ok_of_bind h
  obtain ⟨hmay, rfl⟩ := RunStatus.become_eq_ok hbecome
  cases h
  exact ⟨hmay, rfl⟩

theorem MlRun.started_eq_ok {run next : MlRun} {moment : Timestamp}
    (h : run.started moment = .ok next) :
    run.status.canBecome .running = true ∧
      next = { run with status := .running, startedAt := some moment } := by
  obtain ⟨status, hbecome, h⟩ := ok_of_bind h
  obtain ⟨hmay, rfl⟩ := RunStatus.become_eq_ok hbecome
  cases h
  exact ⟨hmay, rfl⟩

theorem SaRun.finished_eq_ok {run next : SaRun} {succeeded : Bool} {resultIds : List Uuid}
    {weaknessCount : Nat} {moment : Timestamp}
    (h : run.finished succeeded resultIds weaknessCount moment = .ok next) :
    run.status.canBecome (.ofSuccess succeeded) = true ∧
      next =
        { status := .ofSuccess succeeded, progress := finishedProgress
          startedAt := run.startedAt, endedAt := some moment, resultIds, weaknessCount } := by
  obtain ⟨status, hbecome, h⟩ := ok_of_bind h
  obtain ⟨hmay, rfl⟩ := RunStatus.become_eq_ok hbecome
  cases h
  exact ⟨hmay, rfl⟩

/-- A run that is running can be finished either way. -/
theorem SaRun.finished_of_running {run : SaRun} (hrunning : run.status = .running)
    {succeeded : Bool} {resultIds : List Uuid} {weaknessCount : Nat} {moment : Timestamp} :
    run.finished succeeded resultIds weaknessCount moment =
      .ok
        { status := .ofSuccess succeeded
          progress := finishedProgress
          startedAt := run.startedAt
          endedAt := some moment
          resultIds
          weaknessCount } := by
  unfold SaRun.finished
  rw [hrunning]
  cases succeeded with
  | true => rfl
  | false => rfl

theorem MlRun.finished_of_running {run : MlRun} (hrunning : run.status = .running)
    {succeeded : Bool} {rawResult : Option MlReport} {moment : Timestamp} :
    run.finished succeeded rawResult moment =
      .ok
        { status := .ofSuccess succeeded
          progress := finishedProgress
          startedAt := run.startedAt
          endedAt := some moment
          rawResult } := by
  unfold MlRun.finished
  rw [hrunning]
  cases succeeded with
  | true => rfl
  | false => rfl

theorem MlRun.finished_eq_ok {run next : MlRun} {succeeded : Bool}
    {rawResult : Option MlReport} {moment : Timestamp}
    (h : run.finished succeeded rawResult moment = .ok next) :
    run.status.canBecome (.ofSuccess succeeded) = true ∧
      next =
        { status := .ofSuccess succeeded, progress := finishedProgress
          startedAt := run.startedAt, endedAt := some moment, rawResult } := by
  obtain ⟨status, hbecome, h⟩ := ok_of_bind h
  obtain ⟨hmay, rfl⟩ := RunStatus.become_eq_ok hbecome
  cases h
  exact ⟨hmay, rfl⟩

/-! ### Stages -/

theorem Workflow.isRunning_iff {workflow : Workflow} :
    workflow.isRunning = true ↔ workflow.status = .running := by
  simp [Workflow.isRunning]

theorem Workflow.isFullyProgressed_iff {workflow : Workflow} :
    workflow.isFullyProgressed = true ↔ workflow.steps ≤ workflow.progress := by
  simp [Workflow.isFullyProgressed]

/-- A workflow waits for its compiler before any stage is done, and never later. -/
theorem Workflow.nextStage?_eq_compile {workflow : Workflow}
    (h : workflow.nextStage? = some .compile) :
    workflow.progress = 0 ∧ workflow.shape.runsCompile = true := by
  unfold Workflow.nextStage? at h
  split at h
  · cases h
  · revert h
    unfold Shape.stageAt?
    cases workflow.shape <;> rcases hprogress : workflow.progress with _ | _ | _ <;>
      simp [Shape.stages, Shape.runsCompile]

end ScanFlow
