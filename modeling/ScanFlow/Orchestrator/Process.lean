import ScanFlow.Message.Completion
import ScanFlow.Orchestrator.Settle

/-!
Processing completion messages.

Messages may arrive twice, late, or in any order. A message for a workflow or a task that
does not expect it is dropped without a trace, and of two messages that race for the same
run only one takes effect.
-/

namespace ScanFlow

namespace SaFinding

/-- The finding as it is stored. -/
def toFinding (finding : SaFinding) (id taskId : Uuid) : Finding :=
  .fresh id taskId finding.sourceSig finding.sinkSig finding.path

end SaFinding

/-- The findings of one rule as they are stored, numbered from `first` on. -/
def storedFindings (taskId : Uuid) (first : Nat) : List SaFinding → List Finding
  | [] => []
  | finding :: rest =>
    finding.toFinding (Uuid.generated first) taskId :: storedFindings taskId (first + 1) rest

/-- The group of one rule as it is stored. Its number is `first`, and those of its findings
follow. -/
def SaRuleResult.report (result : SaRuleResult) (taskId : Uuid) (ruleId : String)
    (first : Nat) : GroupReport :=
  let findings := storedFindings taskId (first + 1) result.findings
  { group :=
      { id := Uuid.generated first
        taskId
        ruleId
        ruleName := result.ruleName
        ruleCwe := result.ruleCwe
        ruleCategory := result.ruleCategory
        ruleLevel := result.ruleLevel
        findingIds := findings.map Finding.id }
    findings }

/-- The groups of all rules as they are stored, numbered from `first` on. -/
def storedReports (taskId : Uuid) (first : Nat) :
    List (String × SaRuleResult) → List GroupReport
  | [] => []
  | (ruleId, result) :: rest =>
    result.report taskId ruleId first ::
      storedReports taskId (first + 1 + result.findings.length) rest

/-- The rules of a successful answer; a failure has none. -/
def SaFinished.rules (message : SaFinished) : List (String × SaRuleResult) :=
  if message.success then (message.result.map SortedMap.entries).getD [] else []

namespace Orchestrator

/-- The workflow and the task that a message is about, if they belong together. -/
def resolve (workflowId taskId : Uuid) : Program (Option (Workflow × Task)) := do
  match ← Program.store (.findWorkflow workflowId) with
  | none => return none
  | some workflow =>
    match ← Program.store (.findTask taskId) with
    | none => return none
    | some task => return if workflow.taskId = task.id then some (workflow, task) else none

/-- Binds a compiled artifact to the task of a workflow, registers it with the code, and
goes on to the next stage. -/
def acceptArtifact (o : Orchestrator) (workflow : Workflow) (task : Task)
    (artifact : CompileArtifact) : Program Unit := do
  let saProgress := if workflow.shape.runsSa then some compiledProgress else none
  if ← Program.storeOr (.setArtifact task.id artifact.name artifact.objectKey saProgress) then
    let id ← Program.newId
    let created ← Program.clock
    let _ ← Program.storeOr (.registerCompiled task.codeId
      { id
        name := artifact.name
        size := artifact.size
        md5 := artifact.md5
        objectKey := artifact.objectKey
        folder := StoredFile.compiledFolder
        createdAt := created })
    let now ← Program.clock
    match ← Program.store (.advance workflow.id now) with
    | none => return
    | some advanced =>
      if advanced.isFullyProgressed then Program.finish advanced.id .complete
      else o.chain advanced
  else return

/-- Processes the answer of the compiler, if the workflow waits for it. -/
def onCompileFinished (o : Orchestrator) (message : CompileFinished) : Program Unit := do
  match ← Program.store (.findWorkflow message.workflowId) with
  | none => return
  | some workflow =>
    if !workflow.isRunning || workflow.nextStage? ≠ some .compile then return
    else if !message.success then Program.finish workflow.id .aborted
    else
      match message.artifact with
      | none =>
        Program.fail (.invalidMessage "successful compile-finish without compileResult")
      | some artifact =>
        match ← Program.store (.findTask workflow.taskId) with
        | none => return
        | some task => o.acceptArtifact workflow task artifact

/-- Stores the findings of the static analysis, and settles if this delivery was the one
that ended the run. One that comes second takes its findings away again. -/
def acceptFindings (o : Orchestrator) (workflow : Workflow) (task : Task)
    (message : SaFinished) : Program Unit := do
  let rules := message.rules
  let weaknesses := (rules.flatMap fun rule => rule.2.findings).length
  let first ← Program.reserve (rules.length + weaknesses)
  let reports := storedReports task.id first rules
  let ids := reports.map fun report => report.group.id
  let now ← Program.clock
  match task.sa.finished message.success ids weaknesses now with
  | .error _ => return
  | .ok next =>
    if !reports.isEmpty then Program.storeOr (.insertGroups task.id reports)
    if ← Program.store (.moveSa task.id task.sa.status next) then o.settle workflow task.id
    else if !ids.isEmpty then Program.store (.deleteGroups task.id ids)
    else return

/-- Processes the answer of the static analysis. -/
def onSaFinished (o : Orchestrator) (message : SaFinished) : Program Unit := do
  match ← resolve message.workflowId message.taskId with
  | none => return
  | some (workflow, task) =>
    if !task.runsSa then return
    else if task.sa.status.isTerminal then o.resettle workflow task
    else o.acceptFindings workflow task message

/-- Processes the answer of the machine-learning engine. -/
def onMlFinished (o : Orchestrator) (message : MlFinished) : Program Unit := do
  match ← resolve message.workflowId message.taskId with
  | none => return
  | some (workflow, task) =>
    if !task.runsMl then return
    else if task.ml.status.isTerminal then o.resettle workflow task
    else
      let now ← Program.clock
      let rawResult := if message.success then message.result else none
      match task.ml.finished message.success rawResult now with
      | .error _ => return
      | .ok next =>
        if ← Program.store (.moveMl task.id task.ml.status next) then
          o.settle workflow task.id
        else return

/-- Processes one completion message. -/
def process (o : Orchestrator) : Completion → Program Unit
  | .compile message => o.onCompileFinished message
  | .sa message => o.onSaFinished message
  | .ml message => o.onMlFinished message

end Orchestrator

end ScanFlow
