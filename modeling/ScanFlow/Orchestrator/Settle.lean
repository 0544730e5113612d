import ScanFlow.Orchestrator.Dispatch
import ScanFlow.Orchestrator.Summarize

/-!
Settling a workflow after one of its stages has moved.

Each step is a guarded write, so that settling may be repeated: a workflow that has been
advanced, merged or ended before is left as it is. This is what lets a duplicate message
finish the work of a delivery that was cut.
-/

namespace ScanFlow.Orchestrator

/-- The status of a workflow whose only engine run has ended. -/
def statusAfter (run : RunStatus) : Workflow.Status :=
  if run = .success then .complete else .aborted

/-- Advances a workflow that is running and has stages left, and answers with what is known
of it then. -/
def advance (workflow : Workflow) : Program Workflow := do
  if !workflow.isRunning || workflow.isFullyProgressed then return workflow
  else
    let now ← Program.clock
    match ← Program.store (.advance workflow.id now) with
    | some advanced => return advanced
    | none => return (← Program.store (.findWorkflow workflow.id)).getD workflow

/-- Dispatches the next stage of a running workflow. A dispatch that fails ends it. -/
def chain (o : Orchestrator) (workflow : Workflow) : Program Unit := do
  if !workflow.isRunning then return
  else
    match workflow.nextStage? with
    | none => return
    | some stage =>
      match ← (o.dispatch stage workflow).attempt with
      | .ok _ => return
      | .error _ => Program.finish workflow.id .aborted

/-- Merges and ends a workflow as far as the engine runs of its task allow. -/
def conclude (o : Orchestrator) (workflow : Workflow) (task : Task) : Program Unit := do
  match task.kind with
  | some .sa => Program.finish workflow.id (statusAfter task.sa.status)
  | some .ml => Program.finish workflow.id (statusAfter task.ml.status)
  | some .saMl =>
    if task.bothSucceeded then
      let _ ← o.mergeOnce task
      Program.finish workflow.id .complete
    else if task.bothTerminal then Program.finish workflow.id .aborted
    else return
  | none => return

/-- Settles a workflow after an engine run of its task has ended. -/
def settle (o : Orchestrator) (workflow : Workflow) (taskId : Uuid) : Program Unit := do
  let workflow ← advance workflow
  match ← Program.store (.findTask taskId) with
  | none => return
  | some task =>
    o.conclude workflow task
    if workflow.isFullyProgressed then return else o.chain workflow

/-- Settles a running workflow once more. -/
def resettle (o : Orchestrator) (workflow : Workflow) (task : Task) : Program Unit := do
  if workflow.isRunning then o.settle workflow task.id else return

end ScanFlow.Orchestrator
