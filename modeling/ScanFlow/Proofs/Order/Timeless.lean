import ScanFlow.Proofs.Race.Ledger
import ScanFlow.Proofs.Recovery.Outline

/-!
What answers of the engines make of a scene, moments left out.

Nothing that a service decides depends on the time. Without its moments, a scene after an
answer is therefore a function of the scene before it: the run is ended, the stage is counted,
the results are merged, and the verdict is given. An answer that comes before the analysis has
been dispatched ends the workflow, and without rules it ends the other run too.
-/

namespace ScanFlow

/-- The moment that stands for all moments. -/
def Timestamp.origin : Timestamp := ⟨0, 0⟩

namespace SaRun

def timeless (run : SaRun) : SaRun :=
  { run with
    startedAt := run.startedAt.map fun _ => .origin
    endedAt := run.endedAt.map fun _ => .origin }

end SaRun

namespace MlRun

def timeless (run : MlRun) : MlRun :=
  { run with
    startedAt := run.startedAt.map fun _ => .origin
    endedAt := run.endedAt.map fun _ => .origin }

end MlRun

namespace Summary

def timeless : Summary → Summary
  | notRun => notRun
  | empty _ => empty .origin
  | populated _ records => populated .origin records

theorem timeless_ofResults (records : List MergeRecord) (moment : Timestamp) :
    (ofResults records moment).timeless = ofResults records .origin := by
  unfold ofResults
  split
  · rfl
  · rfl

end Summary

/-! ### Workflows -/

namespace Workflow

def timeless (workflow : Workflow) : Workflow :=
  { workflow with
    timeline := workflow.timeline.map fun _ => .origin
    updatedAt := .origin }

/-- One more stage counted, if there is one to count. -/
def counted (workflow : Workflow) : Workflow := (workflow.advanced? .origin).getD workflow

def ended (workflow : Workflow) (status : Status) : Workflow :=
  (workflow.finished? status .origin).getD workflow

def judged (workflow : Workflow) : Option Status → Workflow
  | some status => workflow.ended status
  | none => workflow

/-- The workflow runs, and counting one stage leaves another one to be dispatched. -/
def isEarly (workflow : Workflow) : Bool :=
  workflow.isRunning && workflow.progress + 1 < workflow.steps

theorem timeless_advanced (workflow : Workflow) (moment : Timestamp) :
    ((workflow.advanced? moment).getD workflow).timeless = workflow.timeless.counted := by
  unfold counted advanced?
  change _ = (if (workflow.isRunning && !workflow.isFullyProgressed) = true then _
    else none).getD workflow.timeless
  split
  · simp [timeless, List.map_append]
  · rfl

def given (workflow : Workflow) : (Uuid × Shape × Nat × Uuid) × Option Uuid :=
  (workflow.fixed, workflow.templateId)

section Given

variable {workflow before : Workflow} (hgiven : workflow.given = before.given)
include hgiven

theorem fixed_of_given : workflow.fixed = before.fixed := congrArg Prod.fst hgiven

theorem id_of_given : workflow.id = before.id := id_of_fixed (fixed_of_given hgiven)

theorem shape_of_given : workflow.shape = before.shape := shape_of_fixed (fixed_of_given hgiven)

theorem taskId_of_given : workflow.taskId = before.taskId :=
  taskId_of_fixed (fixed_of_given hgiven)

theorem templateId_of_given : workflow.templateId = before.templateId := congrArg Prod.snd hgiven

end Given

theorem counted_given (workflow : Workflow) : workflow.counted.given = workflow.given := by
  apply Store.Operation.getD_keeps given
  intro next hnext
  rw [(advanced?_eq_some hnext).2.2]
  rfl

theorem ended_given (workflow : Workflow) (status : Status) :
    (workflow.ended status).given = workflow.given := by
  apply Store.Operation.getD_keeps given
  intro next hnext
  rw [(finished?_eq_some hnext).2]
  rfl

theorem judged_given (workflow : Workflow) (verdict : Option Status) :
    (workflow.judged verdict).given = workflow.given := by
  cases verdict with
  | none => rfl
  | some status => exact ended_given workflow status

theorem ended_progress (workflow : Workflow) (status : Status) :
    (workflow.ended status).progress = workflow.progress := by
  apply Store.Operation.getD_keeps progress
  intro next hnext
  rw [(finished?_eq_some hnext).2]

theorem judged_progress (workflow : Workflow) (verdict : Option Status) :
    (workflow.judged verdict).progress = workflow.progress := by
  cases verdict with
  | none => rfl
  | some status => exact ended_progress workflow status

/-- Counting a stage leaves a running workflow with another one to be dispatched. -/
theorem isEarly_iff (workflow : Workflow) (moment : Timestamp) :
    workflow.isEarly = true ↔
      ((workflow.advanced? moment).getD workflow).isRunning = true ∧
        ((workflow.advanced? moment).getD workflow).isFullyProgressed = false := by
  unfold isEarly advanced?
  split
  · rename_i hguard
    simp only [Bool.and_eq_true, Bool.not_eq_true'] at hguard
    simp [isRunning, isFullyProgressed]
  · rename_i hguard
    rw [Bool.and_eq_true, Bool.not_eq_true'] at hguard
    refine ⟨fun hearly => ?_, fun hopen => absurd hopen hguard⟩
    simp only [Bool.and_eq_true, decide_eq_true_eq] at hearly
    exact absurd ⟨hearly.1, by simp [isFullyProgressed]; omega⟩ hguard

theorem timeless_finished (workflow : Workflow) (status : Status) (now : Timestamp) :
    ((workflow.finished? status now).getD workflow).timeless =
      workflow.timeless.ended status := by
  unfold ended finished?
  change _ = (if workflow.status.canBecome status = true then _ else none).getD workflow.timeless
  split
  · rfl
  · rfl

end Workflow

/-! ### Tasks -/

namespace Task

variable {task : Task} {now : Timestamp}

def timeless (task : Task) : Task :=
  { task with
    sa := task.sa.timeless
    ml := task.ml.timeless
    summary := task.summary.timeless
    updatedAt := .origin }

def saEnded (task : Task) (succeeded : Bool) (resultIds : List Uuid) (weaknessCount : Nat) :
    Task :=
  { task with
    sa :=
      { status := .ofSuccess succeeded
        progress := finishedProgress
        startedAt := task.sa.startedAt
        endedAt := some .origin
        resultIds
        weaknessCount }
    weaknessCount }

def mlEnded (task : Task) (succeeded : Bool) (rawResult : Option MlReport) : Task :=
  { task with
    ml :=
      { status := .ofSuccess succeeded
        progress := finishedProgress
        startedAt := task.ml.startedAt
        endedAt := some .origin
        rawResult } }

/-- The runs that have not ended end with an exception. -/
def saGivenUp (task : Task) : Task :=
  if task.sa.status.isTerminal then task else task.saEnded false [] 0

def mlGivenUp (task : Task) : Task :=
  if task.runsMl && !task.ml.status.isTerminal then task.mlEnded false none else task

def givenUp (task : Task) : Task := task.saGivenUp.mlGivenUp

def awaitsSa (task : Task) (succeeded : Bool) : Bool :=
  task.runsSa && task.sa.status.canBecome (.ofSuccess succeeded)

def awaitsMl (task : Task) (succeeded : Bool) : Bool :=
  task.runsMl && task.ml.status.canBecome (.ofSuccess succeeded)

theorem timeless_finishedSa {run : SaRun} {succeeded : Bool} {resultIds : List Uuid}
    {weaknessCount : Nat} {moment : Timestamp}
    (h : task.sa.finished succeeded resultIds weaknessCount moment = .ok run) :
    ({ task with
        sa := run, weaknessCount := run.weaknessCount, updatedAt := now } : Task).timeless =
      task.timeless.saEnded succeeded resultIds weaknessCount := by
  rw [(SaRun.finished_eq_ok h).2]
  rfl

theorem timeless_finishedMl {run : MlRun} {succeeded : Bool} {rawResult : Option MlReport}
    {moment : Timestamp} (h : task.ml.finished succeeded rawResult moment = .ok run) :
    ({ task with ml := run, updatedAt := now } : Task).timeless =
      task.timeless.mlEnded succeeded rawResult := by
  rw [(MlRun.finished_eq_ok h).2]
  rfl

end Task

/-! ### Scenes -/

namespace Scene

def timeless (scene : Scene) : Scene :=
  { scene with workflow := scene.workflow.timeless, task := scene.task.timeless }

/-- The stage is counted, the results are merged, and the verdict is given. -/
def settled (o : Orchestrator) (scene : Scene) : Scene :=
  { scene with
    workflow := scene.workflow.counted.judged (Orchestrator.verdict? scene.task)
    task := o.merged scene.task scene.results }

/-- The analysis could not be dispatched. If that was for want of rules, no run is left. -/
def givenUp (unruled : Option Uuid → Bool) (scene : Scene) : Scene :=
  { scene with
    workflow := scene.workflow.ended .aborted
    task := if unruled scene.workflow.templateId then scene.task.givenUp else scene.task }

def answered (o : Orchestrator) (unruled : Option Uuid → Bool) (scene : Scene) : Scene :=
  if scene.workflow.isEarly then (scene.settled o).givenUp unruled else scene.settled o

def saEnded (scene : Scene) (answer : SaFinished) : Scene :=
  let reports := storedReports scene.task.id scene.nextNumber answer.rules
  { scene.after .origin (.insertGroups scene.task.id reports) with
    task := scene.task.saEnded answer.success (reports.map fun report => report.group.id)
      (answer.rules.flatMap fun rule => rule.2.findings).length
    nextNumber := scene.nextNumber + recordCount answer.rules }

def mlEnded (scene : Scene) (answer : MlFinished) : Scene :=
  { scene with
    task := scene.task.mlEnded answer.success (if answer.success then answer.result else none) }

def saAnswered (o : Orchestrator) (unruled : Option Uuid → Bool) (answer : SaFinished)
    (scene : Scene) : Scene :=
  if scene.task.awaitsSa answer.success then (scene.saEnded answer).answered o unruled
  else scene

def mlAnswered (o : Orchestrator) (unruled : Option Uuid → Bool) (answer : MlFinished)
    (scene : Scene) : Scene :=
  if scene.task.awaitsMl answer.success then (scene.mlEnded answer).answered o unruled
  else scene

end Scene

namespace Orchestrator

/-- The moment of a merge is all that it has of the time. -/
theorem timeless_merged (o : Orchestrator) (task : Task) (reports : List GroupReport) :
    (o.merged task reports).timeless = o.merged task.timeless reports := by
  have hrecords : o.mergeRecords task.timeless reports = o.mergeRecords task reports := rfl
  by_cases hkind : task.kind = some .saMl
  · have hsame : task.timeless.kind = some .saMl := hkind
    unfold merged
    rw [hrecords, hkind, hsame]
    cases o.mergeRecords task reports with
    | error e => rfl
    | ok records =>
      dsimp only
      unfold Task.withClaim?
      change _ = (if (task.mergeClaimed || !task.bothSucceeded) = true then none else _).getD
        task.timeless
      split
      · rfl
      · simp [Task.timeless, Task.withSummary, Summary.timeless_ofResults]
  · rw [merged_of_kind hkind, merged_of_kind (show task.timeless.kind ≠ some .saMl from hkind)]

/-- Merging leaves the runs and what has been bound as they are. -/
theorem merged_course (o : Orchestrator) (task : Task) (reports : List GroupReport) :
    (o.merged task reports).course = task.course := by
  unfold merged
  split
  · exact Store.Operation.getD_keeps Task.course fun next hnext => Task.withClaim?_course hnext
  · rfl

end Orchestrator

end ScanFlow
