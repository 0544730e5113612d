import ScanFlow.Proofs.Record.Reached
import ScanFlow.Proofs.Recovery.Repetition

/-!
The record of a task agrees with itself, and with what is stored of its findings.

Five services write to a task, each to its own part of the record, and some of them write to
several parts at once. Between two services the parts agree: the ends of the runs with their
status, the list of the static analysis with the stored groups, and the claim of the merge with
the summary.
-/

namespace ScanFlow

namespace Summary

theorem results_timeless (summary : Summary) : summary.timeless.results = summary.results := by
  cases summary with
  | notRun | empty | populated => rfl

theorem hasRun_timeless (summary : Summary) : summary.timeless.hasRun = summary.hasRun := by
  cases summary with
  | notRun | empty | populated => rfl

theorem hasRun_ofResults (records : List MergeRecord) (moment : Timestamp) :
    (ofResults records moment).hasRun = true := by
  cases records with
  | nil => rfl
  | cons record rest => rfl

/-- A summary that has run is called empty where it has no results. -/
theorem empty_iff {summary : Summary} {records : List MergeRecord}
    (h : summary.timeless = .ofResults records .origin) :
    (∃ moment, summary = .empty moment) ↔ records = [] := by
  cases records with
  | nil =>
    cases summary with
    | empty moment => exact ⟨fun _ => rfl, fun _ => ⟨moment, rfl⟩⟩
    | notRun | populated => cases h
  | cons record rest =>
    cases summary with
    | notRun | empty => cases h
    | populated => exact ⟨nofun, nofun⟩

end Summary

structure Orchestrator.Summarized (o : Orchestrator) (scene : Scene) (records : List MergeRecord) :
    Prop where
  merged : o.mergeRecords scene.task scene.results = .ok records
  summary : scene.task.summary.timeless = .ofResults records .origin
  count : scene.task.weaknessCount = records.length

namespace Orchestrator.Summarized

variable {o : Orchestrator} {scene : Scene} {records : List MergeRecord}

theorem hasRun (h : o.Summarized scene records) : scene.task.summary.hasRun = true := by
  rw [← Summary.hasRun_timeless, h.summary]
  exact Summary.hasRun_ofResults records .origin

theorem results (h : o.Summarized scene records) : scene.task.summary.results = records := by
  rw [← Summary.results_timeless, h.summary]
  exact results_ofResults records .origin

end Orchestrator.Summarized

/-- A merge that is claimed has been stored. -/
theorem Scene.Orderly.summarized {o : Orchestrator} {scene : Scene} (h : scene.Orderly)
    (hcovers : o.Covers scene) (hclaimed : scene.task.mergeClaimed = true) :
    ∃ records, o.Summarized scene records := by
  have hmerged := hcovers (h.consistent.claimed hclaimed)
  split at hmerged
  · rename_i records hrecords
    exact ⟨records, hrecords, hmerged.2.2, hmerged.2.1⟩
  · cases hmerged.symm.trans hclaimed

/-! ### Stored tasks -/

def Store.groupsOf (store : Store) (taskId : Uuid) : List FindingGroup :=
  store.groups.filter fun group => group.taskId = taskId

/-- The record of a task agrees with itself, and with the groups and findings of the store. -/
structure Store.Agrees (store : Store) (task : Task) : Prop where
  sa : task.sa.mark.Fits task.snapshot.isSome task.runsSa
  ml : task.ml.mark.Fits task.snapshot.isSome task.runsMl
  listed : (store.groupsOf task.id).map FindingGroup.id = task.sa.resultIds
  counted : ((store.groupsOf task.id).flatMap FindingGroup.findingIds).length =
    task.sa.weaknessCount
  present : ∀ group ∈ store.groupsOf task.id, ∀ id ∈ group.findingIds,
    (store.findings.get? id).isSome
  unlisted : task.sa.status ≠ .success → store.groupsOf task.id = []
  reported : task.ml.rawResult.isSome ↔ task.ml.status = .success
  claimed : task.mergeClaimed = true ↔ task.summary.hasRun = true
  succeeded : task.mergeClaimed = true → task.sa.status = .success ∧ task.ml.status = .success
  weaknesses : task.weaknessCount =
    if task.summary.hasRun then task.summary.results.length else task.sa.weaknessCount

namespace System

open Orchestrator

variable {o : Orchestrator} {start system : System} {scene : Scene}

theorem Shows.groupsOf (hshows : system.Shows scene) :
    system.store.groupsOf scene.task.id = scene.own := by
  unfold Store.groupsOf Scene.own
  rw [hshows.groups]

/-- A task whose records are in order agrees with the store. -/
theorem Shows.agrees (hshows : system.Shows scene) (horderly : scene.Orderly)
    (hcovers : o.Covers scene) : system.store.Agrees scene.task where
  sa := horderly.consistent.sa
  ml := horderly.consistent.ml
  listed := by
    rw [hshows.groupsOf]
    exact horderly.listed.ids
  counted := by
    rw [hshows.groupsOf]
    exact horderly.listed.count
  present := by
    rw [hshows.groupsOf, hshows.findings]
    intro group member id hid
    obtain ⟨finding, hstored, _⟩ := horderly.listed.findings group member id hid
    rw [hstored]
    rfl
  unlisted := by
    rw [hshows.groupsOf]
    exact horderly.own_eq_nil
  reported := by
    constructor
    · intro hsome
      by_contra hnot
      rw [horderly.consistent.unreported hnot] at hsome
      cases hsome
    · intro hsuccess
      obtain ⟨report, hraw, _⟩ := horderly.consistent.report hsuccess
      rw [hraw]
      rfl
  claimed := by
    constructor
    · intro hclaimed
      obtain ⟨records, hsummarized⟩ := horderly.summarized hcovers hclaimed
      exact hsummarized.hasRun
    · intro hrun
      by_contra hnot
      obtain ⟨hsummary, _⟩ := horderly.consistent.unmerged (by simpa using hnot)
      rw [hsummary] at hrun
      cases hrun
  succeeded := fun hclaimed => bothSucceeded_iff.mp (horderly.consistent.claimed hclaimed)
  weaknesses := by
    cases hclaim : scene.task.mergeClaimed with
    | true =>
      obtain ⟨records, hsummarized⟩ := horderly.summarized hcovers hclaim
      rw [hsummarized.hasRun, hsummarized.count, hsummarized.results]
      rfl
    | false =>
      obtain ⟨hsummary, hcount⟩ := horderly.consistent.unmerged hclaim
      rw [hsummary, hcount]
      rfl

/-- Between two services, every task that has been added since a start without workflows has one
workflow, runs what the shape of that workflow asks for, and agrees with what is stored. -/
theorem stored_task_agrees (hstart : start.Unsubmitted) (hreach : Reaches o start system)
    {id : Uuid} {task : Task} (hstored : system.store.tasks.get? id = some task)
    (hnew : start.store.tasks.get? id = none) :
    (∃ workflow, system.store.workflows.get? workflow.id = some workflow ∧
      workflow.taskId = id ∧ task.kind = workflow.shape.taskKind? ∧
        ∀ otherId other, system.store.workflows.get? otherId = some other → other.taskId = id →
          other = workflow) ∧ system.store.Agrees task := by
  obtain ⟨hsound, _⟩ := hstart.toInitial.reaches hreach
  have horder := hstart.inOrder hreach
  obtain ⟨scene, hshows, rfl⟩ := horder.tasks id task hstored hnew
  obtain ⟨horderly, hcovers⟩ := horder.scenes scene hshows
  have hid : scene.workflow.taskId = id := by
    rw [hshows.linked, hsound.keyed.tasks _ _ hstored]
  refine ⟨⟨scene.workflow, hshows.workflow, hid, (hsound.shown hshows).1.kind, ?_⟩,
    hshows.agrees horderly hcovers⟩
  intro otherId other hother hlinked
  have hsame := hsound.apart _ _ _ _ hother hshows.workflow (hlinked.trans hid.symm)
  rw [hsame, hshows.workflow, Option.some.injEq] at hother
  exact hother.symm

/-- A scan that both engines have answered. -/
theorem answered_task_agrees :
    ∃ task, bothFound.store.tasks.get? (Uuid.generated 2) = some task ∧
      task.mergeClaimed = true ∧ task.sa.resultIds ≠ [] ∧ bothFound.store.Agrees task := by
  have hseen : (bothFound.store.tasks.get? (Uuid.generated 2)).map
      (fun task => (task.mergeClaimed, task.sa.resultIds.isEmpty)) = some (true, false) := by
    decide +kernel
  obtain ⟨task, hstored, hpair⟩ := Option.map_eq_some_iff.mp hseen
  obtain ⟨hclaimed, hlisted⟩ := Prod.mk.inj hpair
  obtain ⟨_, hagrees⟩ :=
    stored_task_agrees unsubmitted_empty reaches_bothFound hstored (SortedMap.get?_empty _)
  refine ⟨task, hstored, hclaimed, ?_, hagrees⟩
  intro hnone
  rw [hnone] at hlisted
  cases hlisted

end System

end ScanFlow
