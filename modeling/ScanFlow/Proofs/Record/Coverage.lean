import ScanFlow.Proofs.Record.Tasks

/-!
The automatic merge covers every pair of successful runs.

Whatever order the answers come in, the second success is followed by a merge of all that has
been stored. Accepted messages leave a single way for that merge to fail, a finding whose path
ends in a file without a name. Otherwise the merge is claimed, with the summary that merging the
stored results gives.
-/

namespace ScanFlow

/-- The path of some finding ends in a file without a name. -/
def GroupReport.Unplaced (reports : List GroupReport) : Prop :=
  ∃ report ∈ reports, ∃ finding ∈ report.findings,
    ∃ step, finding.path.getLast? = some step ∧ step.file = ""

theorem Finding.Grounded.unplaced_iff {finding : Finding} (h : finding.Grounded) :
    finding.sinkFile = "" ↔ ∃ step, finding.path.getLast? = some step ∧ step.file = "" := by
  unfold sinkFile
  cases hlast : finding.path.getLast? with
  | none => exact absurd (List.getLast?_eq_none_iff.mp hlast) h.path
  | some step =>
    constructor
    · intro hempty
      exact ⟨step, rfl, hempty⟩
    · rintro ⟨_, hsame, hempty⟩
      cases hsame
      exact hempty

structure Task.Covered (task : Task) (reports : List GroupReport)
    (merged : Except CorrelationError (List MergeRecord)) : Prop where
  fails : (∃ e, merged = .error e) ↔ GroupReport.Unplaced reports
  fault : ∀ e, merged = .error e → ∃ facade, e = .malformedFacade facade
  claimed : task.mergeClaimed = true ↔ ∃ records, merged = .ok records
  summary : task.mergeClaimed = true → merged = .ok task.summary.results ∧
    task.weaknessCount = task.summary.results.length ∧
      ((∃ moment, task.summary = .empty moment) ↔ task.summary.results = [])

namespace Scene

open Orchestrator

variable {o : Orchestrator} {scene : Scene}

/-- All that the static analysis lists is read back, in its order. -/
theorem Listed.resultReports {system : System} (h : scene.Listed) (hshows : system.Shows scene) :
    system.store.resultReports scene.task = some scene.results := by
  have hdistinct := h.distinct
  rw [← h.report_ids] at hdistinct
  unfold Store.resultReports
  rw [groupReports_eq hshows, ← h.report_ids, h.results_eq]
  apply mapM_find
  intro report member
  rw [← List.head?_filter, filter_of_nodup hdistinct member]
  rfl

/-- Once both engines have succeeded, the task holds what merging its results gives. -/
theorem Orderly.covered (h : scene.Orderly) (hcovers : o.Covers scene)
    (hvalid : o.thresholds.isValid = true) (hboth : scene.task.bothSucceeded = true) :
    scene.task.Covered scene.results (o.mergeRecords scene.task scene.results) := by
  obtain ⟨raw, hraw, hprobable⟩ := h.consistent.report (bothSucceeded_iff.mp hboth).2
  have hgrounded := h.listed.grounded
  have hregular : ∀ report ∈ scene.results, ∀ finding ∈ report.findings, finding.Regular :=
    fun report hreport finding hfinding => (hgrounded report hreport finding hfinding).regular
  have hprobable : (scene.task.ml.rawResult.getD ∅).Probable := by
    rw [hraw]
    exact hprobable
  obtain ⟨hfails, hfault⟩ :=
    Merge.merge_error_iff scene.task.snapshot hvalid hregular hprobable
  have hunplaced : (∃ report ∈ scene.results, ∃ finding ∈ report.findings,
      finding.sinkFile = "") ↔ GroupReport.Unplaced scene.results := by
    constructor
    · rintro ⟨report, hreport, finding, hfinding, hempty⟩
      exact ⟨report, hreport, finding, hfinding,
        (hgrounded report hreport finding hfinding).unplaced_iff.mp hempty⟩
    · rintro ⟨report, hreport, finding, hfinding, hends⟩
      exact ⟨report, hreport, finding, hfinding,
        (hgrounded report hreport finding hfinding).unplaced_iff.mpr hends⟩
  refine ⟨hfails.trans hunplaced, hfault, ?_, ?_⟩
  · have hmerged := hcovers hboth
    cases hrecords : o.mergeRecords scene.task scene.results with
    | ok records =>
      rw [hrecords] at hmerged
      exact ⟨fun _ => ⟨records, rfl⟩, fun _ => hmerged.1⟩
    | error e =>
      rw [hrecords] at hmerged
      constructor
      · intro hclaimed
        cases hmerged.symm.trans hclaimed
      · nofun
  · intro hclaimed
    obtain ⟨records, hsummarized⟩ := h.summarized hcovers hclaimed
    rw [hsummarized.results]
    exact ⟨hsummarized.merged, hsummarized.count, Summary.empty_iff hsummarized.summary⟩

end Scene

namespace System

open Orchestrator

variable {o : Orchestrator} {start system : System}

/-- Between two services, every task that both engines have succeeded on holds what merging its
stored results gives, with the report, the rules and the thresholds that are on record. -/
theorem both_succeeded_covered {settings : Settings} (hsettings : ofSettings settings = .ok o)
    (hstart : start.Unsubmitted) (hreach : Reaches o start system) {id : Uuid} {task : Task}
    (hstored : system.store.tasks.get? id = some task)
    (hnew : start.store.tasks.get? id = none) (hsa : task.sa.status = .success)
    (hml : task.ml.status = .success) :
    ∃ reports raw snapshot, system.store.resultReports task = some reports ∧
      task.ml.rawResult = some raw ∧ task.snapshot = some snapshot ∧
        task.Covered reports (Merge.merge reports raw (some snapshot)
          ⟨settings.mergeThresholdLow, settings.mergeThresholdHigh⟩) := by
  have horder := hstart.inOrder hreach
  obtain ⟨scene, hshows, rfl⟩ := horder.tasks id task hstored hnew
  obtain ⟨horderly, hcovers⟩ := horder.scenes scene hshows
  obtain ⟨hthresholds, hvalid⟩ := ofSettings_thresholds hsettings
  have hcovered := horderly.covered hcovers hvalid (bothSucceeded_iff.mpr ⟨hsa, hml⟩)
  obtain ⟨raw, hraw, _⟩ := horderly.consistent.report hml
  obtain ⟨snapshot, hsnapshot⟩ :=
    Option.isSome_iff_exists.mp (horderly.consistent.sa.begun (Or.inr hsa)).2.1
  refine ⟨scene.results, raw, snapshot, horderly.listed.resultReports hshows, hraw, hsnapshot, ?_⟩
  rw [mergeRecords, hraw, hsnapshot, hthresholds] at hcovered
  exact hcovered

/-- A scan that both engines have answered. -/
theorem answered_task_covered :
    ofSettings smallSettings = .ok smallOrchestrator ∧
      ∃ task reports raw snapshot, bothFound.store.tasks.get? (Uuid.generated 2) = some task ∧
        task.sa.status = .success ∧ task.ml.status = .success ∧
        bothFound.store.resultReports task = some reports ∧ task.ml.rawResult = some raw ∧
        task.snapshot = some snapshot ∧
        task.Covered reports (Merge.merge reports raw (some snapshot)
          ⟨smallSettings.mergeThresholdLow, smallSettings.mergeThresholdHigh⟩) := by
  have hsettings := ofSettings_smallSettings
  have hseen : (bothFound.store.tasks.get? (Uuid.generated 2)).map
      (fun task => (task.sa.status, task.ml.status)) = some (.success, .success) := by
    decide +kernel
  obtain ⟨task, hstored, hpair⟩ := Option.map_eq_some_iff.mp hseen
  obtain ⟨hsa, hml⟩ := Prod.mk.inj hpair
  obtain ⟨reports, raw, snapshot, hreports, hraw, hsnapshot, hcovered⟩ :=
    both_succeeded_covered hsettings unsubmitted_empty reaches_bothFound hstored
      (SortedMap.get?_empty _) hsa hml
  exact ⟨hsettings, task, reports, raw, snapshot, hstored, hsa, hml, hreports, hraw, hsnapshot,
    hcovered⟩

end System

end ScanFlow
