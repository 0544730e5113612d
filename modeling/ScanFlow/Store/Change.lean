import ScanFlow.Workflow

/-!
Guarded changes of single records.

Each function gives the changed record, or none where its guard refuses. The guards are
what keeps a workflow moving forward only and a task's claims written once: whoever comes
second finds the guard closed.
-/

namespace ScanFlow

/-- What is bound to a task when its analysis is dispatched. -/
structure AnalysisBinding where
  kind : Task.Kind
  snapshot : TemplateSnapshot
  sa : SaRun
  ml : MlRun
  deriving DecidableEq

namespace Workflow

/-- One more stage done, while the workflow runs and has stages left. -/
def advanced? (workflow : Workflow) (moment : Timestamp) : Option Workflow :=
  if workflow.isRunning && !workflow.isFullyProgressed then
    some
      { workflow with
        progress := workflow.progress + 1
        timeline := workflow.timeline ++ [moment]
        updatedAt := moment }
  else none

/-- A new status, where the table of transitions allows it. -/
def finished? (workflow : Workflow) (status : Status) (now : Timestamp) : Option Workflow :=
  if workflow.status.canBecome status then some { workflow with status, updatedAt := now }
  else none

end Workflow

namespace Task

/-- Names the compiled artifact, unless another one has been named before. -/
def withArtifact? (task : Task) (name key : String) (saProgress : Option Nat)
    (now : Timestamp) : Option Task :=
  if task.targetKey.any fun bound => bound != key then none
  else
    some
      { task with
        targetName := name
        targetKey := some key
        sa := { task.sa with progress := saProgress.getD task.sa.progress }
        updatedAt := now }

/-- Binds the snapshot and starts the engine runs, once. -/
def withAnalysis? (task : Task) (binding : AnalysisBinding) (now : Timestamp) : Option Task :=
  if task.snapshot.isSome then none
  else
    some
      { task with
        kind := some binding.kind
        snapshot := some binding.snapshot
        sa := binding.sa
        ml := binding.ml
        updatedAt := now }

/-- Replaces the static analysis, if it still has the status that was read. The count of
weaknesses follows it. -/
def withSa? (task : Task) (expected : RunStatus) (next : SaRun) (now : Timestamp) :
    Option Task :=
  if task.sa.status = expected then
    some { task with sa := next, weaknessCount := next.weaknessCount, updatedAt := now }
  else none

/-- Replaces the machine-learning run, if it still has the status that was read. -/
def withMl? (task : Task) (expected : RunStatus) (next : MlRun) (now : Timestamp) :
    Option Task :=
  if task.ml.status = expected then some { task with ml := next, updatedAt := now } else none

/-- Replaces the summary, whatever it was. -/
def withSummary (task : Task) (summary : Summary) (weaknessCount : Nat) (now : Timestamp) :
    Task :=
  { task with summary, weaknessCount, updatedAt := now }

/-- Claims the merge and stores its summary, once, after both runs have succeeded. -/
def withClaim? (task : Task) (summary : Summary) (weaknessCount : Nat) (now : Timestamp) :
    Option Task :=
  if task.mergeClaimed || !task.bothSucceeded then none
  else some { task.withSummary summary weaknessCount now with mergeClaimed := true }

end Task

end ScanFlow
