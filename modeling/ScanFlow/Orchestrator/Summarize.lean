import ScanFlow.Orchestrator.Basic

/-!
Merging the stored results of a task into its summary.

The automatic merge computes the summary first and stores it together with the claim, so
that a merge that was cut leaves the task unclaimed, and a later delivery can run it
again. A manual merge replaces the summary of a task whose engines have both succeeded.
-/

namespace ScanFlow.Orchestrator

/-- The first report of each id, in the order of the ids; an id that has been seen before,
or has no report, gives nothing. Of several reports with one id the last one counts. -/
def pickReports (reports : List GroupReport) : List Uuid → List GroupReport
  | [] => []
  | id :: rest =>
    let others := reports.filter fun report => report.group.id ≠ id
    match reports.reverse.find? fun report => report.group.id = id with
    | some report => report :: pickReports others rest
    | none => pickReports others rest

/-- The reports that a task refers to, in the order in which its analysis recorded them. -/
def loadReports (task : Task) : Program (List GroupReport) := do
  let reports ← Program.store (.groupReports task.id)
  return pickReports reports task.sa.resultIds

/-- The merged records of a task. -/
def mergeRecords (o : Orchestrator) (task : Task) (reports : List GroupReport) :
    Except CorrelationError (List MergeRecord) :=
  Merge.merge reports (task.ml.rawResult.getD ∅) task.snapshot o.thresholds

/-- Merges once both runs have succeeded, unless the merge is claimed. Whether this call
stored the summary is its answer. Inputs that cannot be merged leave the task as it is. -/
def mergeOnce (o : Orchestrator) (task : Task) : Program Bool := do
  if task.mergeClaimed || !task.bothSucceeded then return false
  else
    let reports ← loadReports task
    match o.mergeRecords task reports with
    | .error _ => return false
    | .ok records =>
      let now ← Program.clock
      Program.store (.claimMerge task.id (.ofResults records now) records.length)

/-- Merges the stored results of a task again, and replaces its summary. -/
def mergeTask (o : Orchestrator) (taskId : Uuid) : Program Summary := do
  let task ← Program.task taskId
  if !task.bothSucceeded then
    Program.fail (.engineNotReady (s!"task {task.id} needs successful SA and ML results before " ++
      s!"merging (sa: {task.sa.status.wire}, ml: {task.ml.status.wire})"))
  else
    let reports ← loadReports task
    match o.mergeRecords task reports with
    | .error e =>
      Program.fail (.internalWithCauses s!"Merge of task {task.id} failed" [e.message])
    | .ok records =>
      let now ← Program.clock
      let summary := Summary.ofResults records now
      Program.storeOr (.storeSummary task.id summary records.length)
      return summary

/-- Merges a task again, at a reviewer's wish. -/
def remerge (o : Orchestrator) (taskId : Uuid) : Program Summary := do
  let task ← Program.task taskId
  if !task.bothSucceeded then
    Program.fail
      (.engineNotReady s!"task {task.id} cannot be merged until SA and ML both succeed")
  else o.mergeTask task.id

end ScanFlow.Orchestrator
