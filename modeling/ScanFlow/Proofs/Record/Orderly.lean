import ScanFlow.Proofs.Order.Commutation

/-!
Records of a task that agree with one another.

A task records each engine run, lists the groups of its findings, and holds a summary. Each of
these is written by some service on its own, and each tells something about the others: a run
that has ended is at its full progress, the groups that are listed are the ones that are stored,
and what can be merged has been merged. None of this depends on moments, on the decisions of
reviewers, or on what is stored about other tasks.
-/

namespace ScanFlow

/-! ### Engine runs -/

structure RunMark where
  status : RunStatus
  progress : Nat
  begun : Bool
  ended : Bool

def SaRun.mark (run : SaRun) : RunMark :=
  ⟨run.status, run.progress, run.startedAt.isSome, run.endedAt.isSome⟩

def MlRun.mark (run : MlRun) : RunMark :=
  ⟨run.status, run.progress, run.startedAt.isSome, run.endedAt.isSome⟩

namespace RunMark

/-- The end and the full progress of a run are recorded together with its final status. A run
that is at work or has succeeded has begun, with rules bound and as one of the task's runs. -/
structure Fits (mark : RunMark) (bound runs : Bool) : Prop where
  ended : mark.ended = mark.status.isTerminal
  full : mark.status.isTerminal = true ↔ mark.progress = finishedProgress
  begun : mark.status = .running ∨ mark.status = .success →
    mark.begun = true ∧ bound = true ∧ runs = true

variable {mark : RunMark} {bound runs : Bool}

theorem fits_initial (bound runs : Bool) : Fits ⟨.pending, 0, false, false⟩ bound runs where
  ended := rfl
  full := by simp [RunStatus.isTerminal, finishedProgress]
  begun := by simp

/-- Compiling moves the progress of a run that has not begun. -/
theorem Fits.compiled (h : mark.Fits bound runs) (hpending : mark.status = .pending) :
    Fits { mark with progress := compiledProgress } bound runs where
  ended := h.ended
  full := by simp [hpending, RunStatus.isTerminal, compiledProgress, finishedProgress]
  begun := h.begun

/-- Nothing has begun before rules are bound. -/
theorem Fits.unbound (h : mark.Fits false runs) :
    mark.status ≠ .running ∧ mark.status ≠ .success := by
  constructor
  · intro hrunning
    cases (h.begun (Or.inl hrunning)).2.1
  · intro hsuccess
    cases (h.begun (Or.inr hsuccess)).2.1

theorem Fits.bind (h : mark.Fits false runs) : mark.Fits true runs where
  ended := h.ended
  full := h.full
  begun := by
    rintro (hrunning | hsuccess)
    · exact absurd hrunning h.unbound.1
    · exact absurd hsuccess h.unbound.2

theorem Fits.begin (h : mark.Fits false true)
    (hmay : mark.status.canBecome .running = true) :
    Fits { mark with status := .running, begun := true } true true where
  ended := by
    have hpending : mark.status = .pending := by
      cases hstatus : mark.status <;> rw [hstatus] at hmay <;> first | rfl | cases hmay
    rw [h.ended, hpending]
    rfl
  full := by
    have hopen := RunStatus.open_of_canBecome hmay
    have hfull := h.full
    rw [hopen] at hfull
    exact ⟨nofun, fun hprogress => absurd (hfull.mpr hprogress) nofun⟩
  begun := fun _ => ⟨rfl, rfl, rfl⟩

theorem Fits.finish (h : mark.Fits bound runs) {succeeded : Bool}
    (hmay : mark.status.canBecome (.ofSuccess succeeded) = true) :
    Fits ⟨.ofSuccess succeeded, finishedProgress, mark.begun, true⟩ bound runs where
  ended := by cases succeeded <;> rfl
  full := ⟨fun _ => rfl, fun _ => by cases succeeded <;> rfl⟩
  begun := by
    intro hsuccess
    cases succeeded with
    | false =>
      rcases hsuccess with hrunning | hsuccess
      · cases hrunning
      · cases hsuccess
    | true =>
      apply h.begun
      cases hstatus : mark.status with
      | running => exact Or.inl rfl
      | pending | success | exception =>
        rw [hstatus] at hmay
        cases hmay

end RunMark

theorem SaRun.mark_timeless (run : SaRun) : run.timeless.mark = run.mark := by
  simp [mark, timeless]

theorem MlRun.mark_timeless (run : MlRun) : run.timeless.mark = run.mark := by
  simp [mark, timeless]

/-! ### Tasks -/

/-- What the records of a task tell of one another, whatever is stored of findings. -/
structure Task.Consistent (task : Task) : Prop where
  sa : task.sa.mark.Fits task.snapshot.isSome task.runsSa
  ml : task.ml.mark.Fits task.snapshot.isSome task.runsMl
  unlisted : task.sa.status ≠ .success → task.sa.resultIds = []
  report : task.ml.status = .success → ∃ report, task.ml.rawResult = some report ∧ report.Probable
  unreported : task.ml.status ≠ .success → task.ml.rawResult = none
  claimed : task.mergeClaimed = true → task.bothSucceeded = true
  unmerged : task.mergeClaimed = false →
    task.summary = .notRun ∧ task.weaknessCount = task.sa.weaknessCount

/-- The task without moments, and without the number of decisions about its findings. -/
def Task.record (task : Task) : Task := { task.timeless with auditCount := 0 }

theorem Summary.timeless_timeless (summary : Summary) :
    summary.timeless.timeless = summary.timeless := by
  cases summary with
  | notRun | empty | populated => rfl

theorem Summary.notRun_of_timeless {summary : Summary} (h : summary.timeless = .notRun) :
    summary = .notRun := by
  cases summary with
  | notRun => rfl
  | empty | populated => cases h

namespace Task

variable {task next : Task}

theorem record_timeless (task : Task) : task.timeless.record = task.record := by
  simp [record, timeless, SaRun.timeless, MlRun.timeless, Summary.timeless_timeless,
    Function.comp_def]

section Record

variable (hsame : next.record = task.record)
include hsame

theorem id_of_record : next.id = task.id := (congrArg Task.id hsame :)

theorem kind_of_record : next.kind = task.kind := (congrArg Task.kind hsame :)

theorem snapshot_of_record : next.snapshot = task.snapshot :=
  (congrArg Task.snapshot hsame :)

theorem saMark_of_record : next.sa.mark = task.sa.mark := by
  have hmark := congrArg (fun record : Task => record.sa.mark) hsame
  simpa [record, timeless, SaRun.mark_timeless] using hmark

theorem mlMark_of_record : next.ml.mark = task.ml.mark := by
  have hmark := congrArg (fun record : Task => record.ml.mark) hsame
  simpa [record, timeless, MlRun.mark_timeless] using hmark

theorem saStatus_of_record : next.sa.status = task.sa.status :=
  (congrArg (fun record : Task => record.sa.status) hsame :)

theorem mlStatus_of_record : next.ml.status = task.ml.status :=
  (congrArg (fun record : Task => record.ml.status) hsame :)

theorem resultIds_of_record : next.sa.resultIds = task.sa.resultIds :=
  (congrArg (fun record : Task => record.sa.resultIds) hsame :)

theorem saCount_of_record : next.sa.weaknessCount = task.sa.weaknessCount :=
  (congrArg (fun record : Task => record.sa.weaknessCount) hsame :)

theorem rawResult_of_record : next.ml.rawResult = task.ml.rawResult :=
  (congrArg (fun record : Task => record.ml.rawResult) hsame :)

theorem claimed_of_record : next.mergeClaimed = task.mergeClaimed :=
  (congrArg Task.mergeClaimed hsame :)

theorem count_of_record : next.weaknessCount = task.weaknessCount :=
  (congrArg Task.weaknessCount hsame :)

theorem summary_of_record : next.summary.timeless = task.summary.timeless :=
  (congrArg Task.summary hsame :)

theorem both_of_record : next.bothSucceeded = task.bothSucceeded := by
  rw [bothSucceeded, bothSucceeded, saStatus_of_record hsame, mlStatus_of_record hsame]

theorem Consistent.congr (h : task.Consistent) : next.Consistent where
  sa := by
    rw [saMark_of_record hsame, snapshot_of_record hsame, runsSa, kind_of_record hsame]
    exact h.sa
  ml := by
    rw [mlMark_of_record hsame, snapshot_of_record hsame, runsMl, kind_of_record hsame]
    exact h.ml
  unlisted := by
    rw [saStatus_of_record hsame, resultIds_of_record hsame]
    exact h.unlisted
  report := by
    rw [mlStatus_of_record hsame, rawResult_of_record hsame]
    exact h.report
  unreported := by
    rw [mlStatus_of_record hsame, rawResult_of_record hsame]
    exact h.unreported
  claimed := by
    rw [claimed_of_record hsame, both_of_record hsame]
    exact h.claimed
  unmerged := by
    rw [claimed_of_record hsame, count_of_record hsame, saCount_of_record hsame]
    intro hunclaimed
    obtain ⟨hsummary, hcount⟩ := h.unmerged hunclaimed
    refine ⟨Summary.notRun_of_timeless ?_, hcount⟩
    rw [summary_of_record hsame, hsummary]
    rfl

end Record

/-- A task that both engines have answered with success runs both. -/
theorem Consistent.kind_of_both (h : task.Consistent) (hboth : task.bothSucceeded = true) :
    task.kind = some .saMl := by
  simp only [bothSucceeded, Bool.and_eq_true, decide_eq_true_eq] at hboth
  exact Task.kind_of_both (h.sa.begun (Or.inr hboth.1)).2.2 (h.ml.begun (Or.inr hboth.2)).2.2

/-- A merge is only claimed once no answer is awaited. -/
theorem Consistent.unclaimed_of_open (h : task.Consistent) (hopen : task.bothTerminal = false) :
    task.mergeClaimed = false := by
  rw [← Bool.not_eq_true]
  intro hclaimed
  have hboth := h.claimed hclaimed
  simp only [bothSucceeded, Bool.and_eq_true, decide_eq_true_eq] at hboth
  rw [bothTerminal, hboth.1, hboth.2] at hopen
  cases hopen

end Task

/-! ### Findings -/

/-- The finding without what a reviewer has decided about it. -/
def Finding.unaudited (finding : Finding) : Finding := { finding with audit := none }

structure Finding.Grounded (finding : Finding) : Prop where
  regular : finding.Regular
  path : finding.path ≠ []

theorem Finding.Grounded.of_unaudited {finding other : Finding} (h : finding.Grounded)
    (hsame : other.unaudited = finding.unaudited) : other.Grounded where
  regular := by
    have hfacade : other.facade = finding.facade := (congrArg Finding.facade hsame :)
    have hpath : other.path = finding.path := (congrArg Finding.path hsame :)
    refine ⟨?_, ?_⟩
    · rw [hfacade, hpath]
      exact h.regular.facade
    · rw [hpath]
      exact h.regular.lines
  path := by
    have hpath : other.path = finding.path := (congrArg Finding.path hsame :)
    rw [hpath]
    exact h.path

namespace Scene

def own (scene : Scene) : List FindingGroup :=
  scene.groups.filter fun group => group.taskId = scene.task.id

/-- The groups of the task are the ones that its static analysis lists, in that order, and it has
counted their findings, which are all there. -/
structure Listed (scene : Scene) : Prop where
  ids : scene.own.map FindingGroup.id = scene.task.sa.resultIds
  distinct : scene.task.sa.resultIds.Nodup
  count : (scene.own.flatMap FindingGroup.findingIds).length = scene.task.sa.weaknessCount
  findings : ∀ group ∈ scene.own, ∀ id ∈ group.findingIds,
    ∃ finding, scene.findings.get? id = some finding ∧ finding.Grounded

/-- The records of the task agree with one another, and with what is stored of findings. -/
structure Orderly (scene : Scene) : Prop where
  consistent : scene.task.Consistent
  listed : scene.Listed

end Scene

/-- Once both engines have succeeded, the results that can be merged have been merged. -/
def Orchestrator.Covers (o : Orchestrator) (scene : Scene) : Prop :=
  scene.task.bothSucceeded = true →
    match o.mergeRecords scene.task scene.results with
    | .ok records =>
      scene.task.mergeClaimed = true ∧ scene.task.weaknessCount = records.length ∧
        scene.task.summary.timeless = .ofResults records .origin
    | .error _ => scene.task.mergeClaimed = false

namespace Scene

variable {o : Orchestrator} {scene next last : Scene}

theorem Listed.report_ids (h : scene.Listed) :
    (scene.reports scene.task.id).map (fun report => report.group.id) =
      scene.task.sa.resultIds := by
  rw [← h.ids, reports, List.map_map]
  rfl

/-- Where the listed groups are the stored ones, all stored reports are merged. -/
theorem Listed.results_eq (h : scene.Listed) : scene.results = scene.reports scene.task.id := by
  have hdistinct := h.distinct
  rw [← h.report_ids] at hdistinct
  unfold results
  rw [← h.report_ids]
  exact pickReports_eq hdistinct fun report member => filter_of_nodup hdistinct member

theorem Listed.grounded (h : scene.Listed) : ∀ report ∈ scene.results,
    ∀ finding ∈ report.findings, finding.Grounded := by
  rw [h.results_eq]
  intro report hreport finding hfinding
  obtain ⟨group, hgroup, rfl⟩ := List.mem_map.mp hreport
  obtain ⟨id, hid, hfound⟩ := List.mem_filterMap.mp hfinding
  obtain ⟨stored, hstored, hgrounded⟩ := h.findings group hgroup id hid
  cases hfound.symm.trans hstored
  exact hgrounded

/-! ### Scenes that differ in moments, decisions, and other tasks only -/

structure Same (scene next : Scene) : Prop where
  record : next.task.record = scene.task.record
  own : next.own = scene.own
  findings : ∀ group ∈ scene.own, ∀ id ∈ group.findingIds,
    (next.findings.get? id).map Finding.unaudited =
      (scene.findings.get? id).map Finding.unaudited

theorem Same.refl (scene : Scene) : scene.Same scene :=
  ⟨rfl, rfl, fun _ _ _ _ => rfl⟩

theorem Same.trans (hfirst : scene.Same next) (hsecond : next.Same last) : scene.Same last where
  record := hsecond.record.trans hfirst.record
  own := hsecond.own.trans hfirst.own
  findings := by
    intro group member id hid
    rw [hsecond.findings group (hfirst.own ▸ member) id hid]
    exact hfirst.findings group member id hid

/-- Moments make no difference, and neither do the numbers that have been taken. -/
theorem same_of_timeless {nextNumber : Nat} (h : next.timeless = { scene with nextNumber }) :
    scene.Same next where
  record := by
    have htask : next.task.timeless = scene.task := (congrArg Scene.task h :)
    rw [← htask]
    exact (Task.record_timeless next.task).symm
  own := (congrArg Scene.own h :)
  findings := by
    intro _ _ id _
    have hfindings : next.findings = scene.findings := (congrArg Scene.findings h :)
    rw [hfindings]

structure Akin (scene next : Scene) : Prop where
  given : next.workflow.given = scene.workflow.given
  id : next.task.id = scene.task.id
  groups : next.groups = scene.groups
  findings : next.findings = scene.findings

theorem Akin.trans (hfirst : scene.Akin next) (hsecond : next.Akin last) : scene.Akin last :=
  ⟨hsecond.given.trans hfirst.given, hsecond.id.trans hfirst.id,
    hsecond.groups.trans hfirst.groups, hsecond.findings.trans hfirst.findings⟩

theorem akin_of_timeless {expected : Scene} {nextNumber : Nat}
    (h : next.timeless = { expected with nextNumber }) (hexpected : scene.Akin expected) :
    scene.Akin next :=
  hexpected.trans
    ⟨(congrArg (fun scene : Scene => scene.workflow.given) h :),
      (congrArg (fun scene : Scene => scene.task.id) h :), (congrArg Scene.groups h :),
      (congrArg Scene.findings h :)⟩

theorem timeless_same (scene : Scene) : scene.Same scene.timeless :=
  ⟨Task.record_timeless scene.task, rfl, fun _ _ _ _ => rfl⟩

theorem Same.listed (h : scene.Same next) (hlisted : scene.Listed) : next.Listed where
  ids := by
    rw [h.own, Task.resultIds_of_record h.record]
    exact hlisted.ids
  distinct := by
    rw [Task.resultIds_of_record h.record]
    exact hlisted.distinct
  count := by
    rw [h.own, Task.saCount_of_record h.record]
    exact hlisted.count
  findings := by
    rw [h.own]
    intro group member id hid
    obtain ⟨finding, hstored, hgrounded⟩ := hlisted.findings group member id hid
    have hsame := h.findings group member id hid
    rw [hstored, Option.map_some] at hsame
    obtain ⟨other, hother, hsame⟩ := Option.map_eq_some_iff.mp hsame
    exact ⟨other, hother, hgrounded.of_unaudited hsame⟩

theorem Same.orderly (h : scene.Same next) (horderly : scene.Orderly) : next.Orderly :=
  ⟨horderly.consistent.congr h.record, h.listed horderly.listed⟩

/-- A correlation is told the same of both scenes. -/
theorem Same.told (h : scene.Same next) :
    Merge.told (next.reports next.task.id) = Merge.told (scene.reports scene.task.id) := by
  have hview : ∀ (group : FindingGroup) (findings : Table Finding) (ids : List Uuid),
      (ids.filterMap findings.get?).map
          (fun finding => (group.ruleCwe, group.ruleName, finding.facade, finding.path)) =
        ids.filterMap fun id => ((findings.get? id).map Finding.unaudited).map fun finding =>
          (group.ruleCwe, group.ruleName, finding.facade, finding.path) := by
    intro group findings ids
    rw [List.map_filterMap]
    simp only [Option.map_map]
    rfl
  change Merge.told (next.own.map _) = Merge.told (scene.own.map _)
  rw [h.own, Merge.told, Merge.told, List.flatMap_map, List.flatMap_map]
  apply List.flatMap_congr
  intro group member
  rw [hview, hview]
  apply List.filterMap_congr
  intro id hid
  rw [h.findings group member id hid]

/-- What is merged does not depend on what differs. -/
theorem Same.mergeRecords (h : scene.Same next) (hlisted : scene.Listed) :
    o.mergeRecords next.task next.results = o.mergeRecords scene.task scene.results := by
  rw [(h.listed hlisted).results_eq, hlisted.results_eq, Orchestrator.mergeRecords,
    Orchestrator.mergeRecords, Task.rawResult_of_record h.record,
    Task.snapshot_of_record h.record]
  exact Merge.merge_of_told h.told _ _ _

theorem Same.covers (h : scene.Same next) (hlisted : scene.Listed) (hcovers : o.Covers scene) :
    o.Covers next := by
  unfold Orchestrator.Covers at hcovers ⊢
  rw [Task.both_of_record h.record, h.mergeRecords hlisted, Task.claimed_of_record h.record,
    Task.count_of_record h.record, Task.summary_of_record h.record]
  exact hcovers

end Scene

end ScanFlow
