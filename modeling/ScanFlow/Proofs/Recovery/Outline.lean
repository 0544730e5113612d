import ScanFlow.Proofs.Lifecycle.Reports
import ScanFlow.Proofs.Lifecycle.Settle

/-!
The outline of a workflow and its task, and what settling makes of it.

An outline leaves out moments and identifiers. Where a workflow is still running, its outline
after settling can be told in advance: all stages are counted, the results are merged if both
engines have succeeded and nobody has merged them, and the status is the verdict. None of the
steps of settling changes this outlook, so that it does not matter how many of them have been
made before.
-/

namespace ScanFlow

def Summary.records? : Summary → Option (List MergeRecord)
  | notRun => none
  | empty _ => some []
  | populated _ records => some records

theorem Summary.records?_ofResults (records : List MergeRecord) (moment : Timestamp) :
    (Summary.ofResults records moment).records? = some records := by
  unfold Summary.ofResults
  split
  · rename_i hempty
    rw [List.isEmpty_iff.mp hempty]
    rfl
  · rfl

/-- What there is to tell of a workflow and its task, but for moments and identifiers. -/
structure Outline where
  status : Workflow.Status
  progress : Nat
  moments : Nat
  saStatus : RunStatus
  saProgress : Nat
  saResults : Nat
  saWeaknesses : Nat
  mlStatus : RunStatus
  mlProgress : Nat
  rawResult : Option MlReport
  mergeClaimed : Bool
  weaknessCount : Nat
  records : Option (List MergeRecord)
  deriving DecidableEq

def Outline.of (workflow : Workflow) (task : Task) : Outline :=
  { status := workflow.status
    progress := workflow.progress
    moments := workflow.timeline.length
    saStatus := task.sa.status
    saProgress := task.sa.progress
    saResults := task.sa.resultIds.length
    saWeaknesses := task.sa.weaknessCount
    mlStatus := task.ml.status
    mlProgress := task.ml.progress
    rawResult := task.ml.rawResult
    mergeClaimed := task.mergeClaimed
    weaknessCount := task.weaknessCount
    records := task.summary.records? }

namespace System

def outline? (system : System) (id : Uuid) : Option Outline := do
  let workflow ← system.store.workflows.get? id
  let task ← system.store.tasks.get? workflow.taskId
  return Outline.of workflow task

theorem Shows.outline {system : System} {scene : Scene} (hshows : system.Shows scene) :
    system.outline? scene.workflow.id = some (Outline.of scene.workflow scene.task) := by
  simp [outline?, hshows.workflow, hshows.linked, hshows.task]

end System

/-! ### Reports that are told apart by their identifiers only -/

namespace Merge

def told (reports : List GroupReport) : List (String × String × String × List PathStep) :=
  reports.flatMap fun report => report.findings.map fun finding =>
    (report.group.ruleCwe, report.group.ruleName, finding.facade, finding.path)

def toldRecord : String × String × String × List PathStep → Except CorrelationError MergeRecord
  | (cwe, name, facade, path) =>
    match Facade.split? facade with
    | none => .error (.malformedFacade facade)
    | some (file, line) =>
      .ok (.ofFinding cwe name file line (path.dropLast.any fun step => step.file = file))

theorem findingRecords_eq_told (reports : List GroupReport) :
    findingRecords reports = (told reports).mapM toldRecord := by
  have hpairs : told reports = (reports.flatMap fun report => report.findings.map fun finding =>
      (report.group, finding)).map fun pair =>
        (pair.1.ruleCwe, pair.1.ruleName, pair.2.facade, pair.2.path) := by
    simp only [told, List.map_flatMap, List.map_map]
    rfl
  rw [hpairs, List.mapM_map]
  rfl

theorem findingRecords_of_told {reports others : List GroupReport}
    (h : told reports = told others) : findingRecords reports = findingRecords others := by
  rw [findingRecords_eq_told, findingRecords_eq_told, h]

theorem merge_of_told {reports others : List GroupReport} (h : told reports = told others)
    (report : MlReport) (rules : Option TemplateSnapshot) (t : Thresholds) :
    merge reports report rules t = merge others report rules t := by
  unfold merge correlate
  rw [findingRecords_of_told h]

theorem told_storedFindings (taskId : Uuid) (first : Nat) (findings : List SaFinding)
    (cwe name : String) :
    (storedFindings taskId first findings).map (fun finding =>
        (cwe, name, finding.facade, finding.path)) =
      findings.map fun finding => (cwe, name, Facade.ofPath finding.path, finding.path) := by
  induction findings generalizing first with
  | nil => rfl
  | cons finding rest ih =>
    rw [storedFindings, List.map_cons, ih]
    rfl

/-- The numbers of stored reports make no difference. -/
theorem told_storedReports (taskId : Uuid) (first : Nat) (rules : List (String × SaRuleResult)) :
    told (storedReports taskId first rules) = rules.flatMap fun rule =>
      rule.2.findings.map fun finding =>
        (rule.2.ruleCwe, rule.2.ruleName, Facade.ofPath finding.path, finding.path) := by
  induction rules generalizing first with
  | nil => rfl
  | cons rule rest ih =>
    obtain ⟨ruleId, result⟩ := rule
    have hrest := ih (first + 1 + result.findings.length)
    unfold told at hrest ⊢
    rw [storedReports, List.flatMap_cons, List.flatMap_cons, hrest]
    exact congrArg (· ++ _) (told_storedFindings taskId (first + 1) result.findings _ _)

end Merge

namespace Orchestrator

open Program

variable {o : Orchestrator} {workflow : Workflow} {task : Task} {reports : List GroupReport}

/-! ### What settling leads to -/

def merged (o : Orchestrator) (task : Task) (reports : List GroupReport) : Task :=
  match task.kind, o.mergeRecords task reports with
  | some .saMl, .ok records =>
    (task.withClaim? (.ofResults records task.updatedAt) records.length task.updatedAt).getD task
  | _, _ => task

/-- The outline to which settling leads, with these reports to be merged. A workflow that has
ended is left as it is. -/
def outlook (o : Orchestrator) (workflow : Workflow) (task : Task)
    (reports : List GroupReport) : Outline :=
  if workflow.status = .running then
    { Outline.of workflow (o.merged task reports) with
      status := (verdict? task).getD .running
      progress := workflow.steps
      moments := workflow.timeline.length + (workflow.steps - workflow.progress) }
  else Outline.of workflow task

theorem merged_of_claimed (hclaimed : task.mergeClaimed = true) : o.merged task reports = task := by
  unfold merged
  split
  · simp [Task.withClaim?, hclaimed]
  · rfl

theorem merged_of_not_both (hboth : task.bothSucceeded = false) :
    o.merged task reports = task := by
  unfold merged
  split
  · simp [Task.withClaim?, hboth]
  · rfl

theorem merged_of_kind (hkind : task.kind ≠ some .saMl) : o.merged task reports = task := by
  unfold merged
  split
  · rename_i hsame _
    exact absurd hsame hkind
  · rfl

/-- Where all stages are counted and nothing is left to be merged, only the verdict is
missing. -/
theorem outlook_of_merged (hrunning : workflow.status = .running)
    (hfull : workflow.progress = workflow.steps) (hmerged : o.merged task reports = task) :
    o.outlook workflow task reports =
      { Outline.of workflow task with status := (verdict? task).getD .running } := by
  rw [outlook, if_pos hrunning, hmerged, hfull, Nat.sub_self]
  simp [Outline.of, hfull]

theorem outlook_of_ended (hended : workflow.status ≠ .running) :
    o.outlook workflow task reports = Outline.of workflow task := if_neg hended

/-- Counting the stage does not change what settling leads to. -/
theorem outlook_stepped (hrunning : workflow.status = .running)
    (hless : workflow.progress < workflow.steps) (moment : Timestamp) :
    o.outlook (workflow.stepped moment) task reports = o.outlook workflow task reports := by
  have hstepped : (workflow.stepped moment).status = .running := hrunning
  rw [outlook, outlook, if_pos hstepped, if_pos hrunning]
  simp only [Outline.of, Workflow.stepped, Outline.mk.injEq, List.length_append,
    List.length_singleton, and_true, true_and]
  omega

/-- Nor does the merge. -/
theorem outlook_claimed {records : List MergeRecord} {next : Task} {now moment : Timestamp}
    (hrunning : workflow.status = .running) (hkind : task.kind = some .saMl)
    (hmerge : o.mergeRecords task reports = .ok records)
    (hnext : task.withClaim? (.ofResults records now) records.length moment = some next) :
    o.outlook workflow next reports = o.outlook workflow task reports := by
  obtain ⟨hunclaimed, hboth, hclaimed⟩ := Task.withClaim?_eq_some hnext
  have hdone : o.merged next reports = next := by
    apply merged_of_claimed
    rw [hclaimed]
  have hverdict : verdict? next = verdict? task := by
    rw [hclaimed]
    rfl
  have hmerged : Outline.of workflow (o.merged task reports) = Outline.of workflow next := by
    rw [merged, hkind, hmerge, hclaimed]
    simp [Task.withClaim?, hunclaimed, hboth, Task.withSummary, Outline.of,
      Summary.records?_ofResults]
  rw [outlook, outlook, if_pos hrunning, if_pos hrunning, hdone, hverdict, hmerged]

/-- Neither moments nor identifiers matter to what settling leads to. -/
theorem outlook_congr {other : Task} {others : List GroupReport}
    (hsame : Outline.of workflow task = Outline.of workflow other)
    (hkind : task.kind = other.kind) (hsnapshot : task.snapshot = other.snapshot)
    (htold : Merge.told reports = Merge.told others) :
    o.outlook workflow task reports = o.outlook workflow other others := by
  simp only [Outline.of, Outline.mk.injEq, true_and] at hsame
  obtain ⟨hsa, hsaProgress, hresults, hweaknesses, hml, hmlProgress, hraw, hclaimed, hcount,
    hrecords⟩ := hsame
  have hverdict : verdict? task = verdict? other := by
    unfold verdict? Task.bothSucceeded Task.bothTerminal
    rw [hkind, hsa, hml]
  have hmerge : o.mergeRecords task reports = o.mergeRecords other others := by
    rw [mergeRecords, mergeRecords, hraw, hsnapshot, Merge.merge_of_told htold]
  have hmerged : Outline.of workflow (o.merged task reports) =
      Outline.of workflow (o.merged other others) := by
    have hboth : task.bothSucceeded = other.bothSucceeded := by
      simp only [Task.bothSucceeded, hsa, hml]
    unfold merged
    rw [hkind, hmerge]
    split
    · simp only [Task.withClaim?, hclaimed, hboth]
      split
      · simp [Outline.of, *]
      · simp [Outline.of, Task.withSummary, Summary.records?_ofResults, *]
    · simp [Outline.of, *]
  rw [outlook, outlook, hverdict, hmerged]
  simp [Outline.of, *]

end Orchestrator

end ScanFlow
