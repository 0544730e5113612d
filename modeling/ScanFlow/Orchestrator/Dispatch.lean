import ScanFlow.Orchestrator.Basic

/-!
Dispatching a stage: everything that must be stored first is stored, and then one request
goes to each engine of the stage. The answers arrive later, as completion messages.

The analysis of a task is dispatched once, since only one dispatch can bind the snapshot
of the rules. Without active rules it ends the workflow, and no engine is asked.
-/

namespace ScanFlow

/-- What a dispatch has done. -/
inductive DispatchOutcome where
  | dispatched (queues : List Queue)
  | aborted
  | alreadyDispatched
  deriving DecidableEq, Repr

namespace Orchestrator

/-- Sends the source archive of a workflow to the compiler. -/
def dispatchCompile (o : Orchestrator) (workflow : Workflow) : Program DispatchOutcome := do
  let code ← Program.require (.findCode workflow.codeId) (.notFound s!"code {workflow.codeId}")
  let source ← Program.require (.findFile code.sourceFileId)
    (.notFound s!"source file {code.sourceFileId}")
  let url ← Program.blobUrl source.objectKey o.urlLifetime
  let request : EngineRequest :=
    .compile { workflowId := workflow.id, source := url, filename := source.name }
  let _ ← Program.sendRequest request
  return .dispatched [request.queue]

/-- The snapshot of the active rules of a workflow's template, if it has any. -/
def captureRules (workflow : Workflow) : Program (Option TemplateSnapshot) := do
  match workflow.templateId with
  | none => Program.fail (.invalidInput s!"workflow {workflow.id} has no rule template")
  | some templateId =>
    match ← Program.store (.findTemplate templateId) with
    | none => return none
    | some template =>
      let rules ← Program.store (.activeRules template.id)
      if rules.isEmpty then return none
      else
        let now ← Program.clock
        return some (.capture template rules now)

/-- Ends the runs that wait for the analysis with an exception, and the workflow with
them. -/
def abortWithoutRules (workflow : Workflow) (task : Task) (kind : Task.Kind) :
    Program DispatchOutcome := do
  let now ← Program.clock
  if !task.sa.status.isTerminal then
    let sa ← Program.ofExcept (task.sa.finished false [] 0 now)
    let _ ← Program.store (.moveSa task.id task.sa.status sa)
  if kind.includesMl && !task.ml.status.isTerminal then
    let ml ← Program.ofExcept (task.ml.finished false none now)
    let _ ← Program.store (.moveMl task.id task.ml.status ml)
  let _ ← Program.store (.finish workflow.id .aborted)
  return .aborted

/-- The requests for the engines of a kind, the static analysis first. -/
def analysisRequests (kind : Task.Kind) (request : AnalysisRequest) : List EngineRequest :=
  (if kind.includesSa then [.saAnalyze request] else []) ++
    (if kind.includesMl then [.mlAnalyze request] else [])

/-- Binds the analysis to the task and asks the engines. -/
def requestAnalysis (o : Orchestrator) (workflow : Workflow) (task : Task) (kind : Task.Kind)
    (snapshot : TemplateSnapshot) : Program DispatchOutcome := do
  match task.targetKey with
  | none => Program.fail (.invalidInput s!"task {task.id} has no compiled artifact")
  | some key =>
    let url ← Program.blobUrl key o.urlLifetime
    let now ← Program.clock
    let sa ← if kind.includesSa then Program.ofExcept (task.sa.started now) else pure task.sa
    let ml ← if kind.includesMl then Program.ofExcept (task.ml.started now) else pure task.ml
    if ← Program.store (.bindAnalysis task.id { kind, snapshot, sa, ml }) then
      let requests := analysisRequests kind
        { workflowId := workflow.id
          taskId := task.id
          source := url
          filename := task.targetName
          rules := snapshot.rules
          maxMemory := workflow.limits.maxMemoryGb
          timeout := workflow.limits.timeoutMinutes }
      requests.forM fun request => do
        let _ ← Program.sendRequest request
      return .dispatched (requests.map EngineRequest.queue)
    else return .alreadyDispatched

/-- Dispatches the analysis of a workflow's task. -/
def dispatchAnalysis (o : Orchestrator) (workflow : Workflow) : Program DispatchOutcome := do
  let task ← Program.task workflow.taskId
  if task.snapshot.isSome then return .alreadyDispatched
  else
    match workflow.shape.taskKind? with
    | none =>
      Program.fail (.internal s!"workflow type {workflow.shape.wire} has no analysis stage")
    | some kind =>
      match ← captureRules workflow with
      | none => abortWithoutRules workflow task kind
      | some snapshot => o.requestAnalysis workflow task kind snapshot

/-- Dispatches one stage of a workflow. -/
def dispatch (o : Orchestrator) (stage : Stage) (workflow : Workflow) :
    Program DispatchOutcome :=
  match stage with
  | .compile => o.dispatchCompile workflow
  | .analysis => o.dispatchAnalysis workflow

end Orchestrator

end ScanFlow
