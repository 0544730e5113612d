import Mathlib.Data.List.Basic
import ScanFlow.Proofs.Order.Answered
import ScanFlow.Proofs.Order.Filed

/-!
Answers of the two engines may change places.

If both answers are expected, neither gives a verdict without the other, and whoever comes
second merges. If they come before the analysis has been dispatched, either of them ends the
workflow, and for want of rules it ends the run of the other one just as that one's answer
would have done. Answers about different workflows have nothing in common but the numbers that
are given to groups, and only one of the two engines takes any.
-/

namespace ScanFlow

namespace Task

variable {task : Task} {succeeded : Bool}

theorem kind_of_both (hsa : task.runsSa = true) (hml : task.runsMl = true) :
    task.kind = some .saMl := by
  unfold runsSa at hsa
  unfold runsMl at hml
  cases hkind : task.kind with
  | none =>
    rw [hkind] at hsa
    cases hsa
  | some kind =>
    rw [hkind] at hsa hml
    cases kind with
    | sa => cases hml
    | ml => cases hsa
    | saMl => rfl

theorem givenUp_id (task : Task) : task.givenUp.id = task.id := by
  have hsa : task.saGivenUp.id = task.id := by
    unfold saGivenUp
    split
    · rfl
    · rfl
  unfold givenUp mlGivenUp
  split
  · exact hsa
  · exact hsa

/-- A run that has been given up is not awaited. -/
theorem awaitsSa_of_givenUp (h : task.givenUp.awaitsSa succeeded = true) :
    task.awaitsSa succeeded = true := by
  have hsame : task.givenUp.awaitsSa succeeded = task.saGivenUp.awaitsSa succeeded := by
    unfold givenUp mlGivenUp
    split
    · rfl
    · rfl
  rw [hsame] at h
  unfold saGivenUp at h
  split at h
  · exact h
  · have hmay := (Bool.and_eq_true_iff.mp h).2
    cases hmay

theorem awaitsMl_of_givenUp (h : task.givenUp.awaitsMl succeeded = true) :
    task.awaitsMl succeeded = true := by
  have hsame : task.saGivenUp.awaitsMl succeeded = task.awaitsMl succeeded := by
    unfold saGivenUp
    split
    · rfl
    · rfl
  unfold givenUp mlGivenUp at h
  split at h
  · have hmay := (Bool.and_eq_true_iff.mp h).2
    cases hmay
  · rwa [hsame] at h

end Task

namespace Scene

variable {o : Orchestrator} {unruled : Option Uuid → Bool} {scene : Scene} {succeeded : Bool}
  {sa : SaFinished} {ml : MlFinished}

/-! ### Answers that are not expected -/

theorem settled_course : (scene.settled o).task.course = scene.task.course :=
  Orchestrator.merged_course o _ _

/-- No answer makes another run awaited. -/
theorem awaitsSa_of_answered (h : (scene.answered o unruled).task.awaitsSa succeeded = true) :
    scene.task.awaitsSa succeeded = true := by
  have hcourse : (scene.settled o).task.course = scene.task.course := settled_course
  simp only [Task.course, Prod.mk.injEq] at hcourse
  have hsame : (scene.settled o).task.awaitsSa succeeded = scene.task.awaitsSa succeeded := by
    rw [Task.awaitsSa, Task.awaitsSa, Task.runsSa, Task.runsSa, hcourse.2.1, hcourse.2.2.2.2.1]
  rw [← hsame]
  unfold answered at h
  split at h
  · unfold givenUp at h
    dsimp only at h
    split at h
    · exact Task.awaitsSa_of_givenUp h
    · exact h
  · exact h

theorem awaitsMl_of_answered (h : (scene.answered o unruled).task.awaitsMl succeeded = true) :
    scene.task.awaitsMl succeeded = true := by
  have hcourse : (scene.settled o).task.course = scene.task.course := settled_course
  simp only [Task.course, Prod.mk.injEq] at hcourse
  have hsame : (scene.settled o).task.awaitsMl succeeded = scene.task.awaitsMl succeeded := by
    rw [Task.awaitsMl, Task.awaitsMl, Task.runsMl, Task.runsMl, hcourse.2.1, hcourse.2.2.2.2.2]
  rw [← hsame]
  unfold answered at h
  split at h
  · unfold givenUp at h
    dsimp only at h
    split at h
    · exact Task.awaitsMl_of_givenUp h
    · exact h
  · exact h

theorem saEnded_awaitsMl (answer : SaFinished) :
    (scene.saEnded answer).task.awaitsMl succeeded = scene.task.awaitsMl succeeded := rfl

theorem mlEnded_awaitsSa (answer : MlFinished) :
    (scene.mlEnded answer).task.awaitsSa succeeded = scene.task.awaitsSa succeeded := rfl

theorem saAnswered_of_awaited (hawaits : scene.task.awaitsSa sa.success = true) :
    scene.saAnswered o unruled sa = (scene.saEnded sa).answered o unruled := if_pos hawaits

theorem mlAnswered_of_awaited (hawaits : scene.task.awaitsMl ml.success = true) :
    scene.mlAnswered o unruled ml = (scene.mlEnded ml).answered o unruled := if_pos hawaits

theorem saAnswered_of_idle (hidle : scene.task.awaitsSa sa.success = false) :
    scene.saAnswered o unruled sa = scene := by
  rw [saAnswered, if_neg (by simp [hidle])]

theorem mlAnswered_of_idle (hidle : scene.task.awaitsMl ml.success = false) :
    scene.mlAnswered o unruled ml = scene := by
  rw [mlAnswered, if_neg (by simp [hidle])]

/-! ### Answers to a dispatched analysis -/

theorem not_both_of_open (hopen : scene.task.bothTerminal = false) :
    scene.task.bothSucceeded = false := by
  rw [← Bool.not_eq_true]
  intro hboth
  simp only [Task.bothSucceeded, Bool.and_eq_true, decide_eq_true_eq] at hboth
  rw [Task.bothTerminal, hboth.1, hboth.2] at hopen
  cases hopen

/-- While another run is awaited, an answer only counts the stage. -/
theorem answered_half (hlate : scene.workflow.isEarly = false)
    (hkind : scene.task.kind = some .saMl) (hopen : scene.task.bothTerminal = false) :
    scene.answered o unruled = { scene with workflow := scene.workflow.counted } := by
  have hnot : scene.task.bothSucceeded = false := not_both_of_open hopen
  have hverdict : Orchestrator.verdict? scene.task = none := by
    simp [Orchestrator.verdict?, hkind, hnot, hopen]
  rw [answered, if_neg (by simp [hlate]), settled, hverdict, Orchestrator.merged_of_not_both hnot]
  rfl

/-- Two answers to one dispatched analysis: the second one decides, whichever it is. -/
theorem answered_late_comm (hlate : scene.workflow.isEarly = false)
    (hsa : scene.task.awaitsSa sa.success = true) (hml : scene.task.awaitsMl ml.success = true) :
    (scene.saAnswered o unruled sa).mlAnswered o unruled ml =
      (scene.mlAnswered o unruled ml).saAnswered o unruled sa := by
  obtain ⟨hrunsSa, hmaySa⟩ := Bool.and_eq_true_iff.mp hsa
  obtain ⟨hrunsMl, hmayMl⟩ := Bool.and_eq_true_iff.mp hml
  have hkind := Task.kind_of_both hrunsSa hrunsMl
  have hfirst : scene.saAnswered o unruled sa =
      { scene.saEnded sa with workflow := scene.workflow.counted } := by
    rw [saAnswered_of_awaited hsa]
    refine answered_half hlate hkind ?_
    simp [Task.bothTerminal, saEnded, Task.saEnded, RunStatus.open_of_canBecome hmayMl]
  have hother : scene.mlAnswered o unruled ml =
      { scene.mlEnded ml with workflow := scene.workflow.counted } := by
    rw [mlAnswered_of_awaited hml]
    refine answered_half hlate hkind ?_
    simp [Task.bothTerminal, mlEnded, Task.mlEnded, RunStatus.open_of_canBecome hmaySa]
  have hstillMl : ({ scene.saEnded sa with workflow := scene.workflow.counted } :
      Scene).task.awaitsMl ml.success = true := hml
  have hstillSa : ({ scene.mlEnded ml with workflow := scene.workflow.counted } :
      Scene).task.awaitsSa sa.success = true := hsa
  rw [hfirst, hother, mlAnswered_of_awaited hstillMl, saAnswered_of_awaited hstillSa]
  -- Both ways lead to one scene with both runs ended.
  rfl

/-! ### Answers that come before the analysis has been dispatched -/

/-- A workflow that has been aborted stays as it is, and without two successes there is nothing
to be merged. -/
theorem answered_aborted (scene : Scene) (haborted : scene.workflow.status = .aborted)
    (hnot : scene.task.bothSucceeded = false) : scene.answered o unruled = scene := by
  have hcounted : scene.workflow.counted = scene.workflow := by
    simp [Workflow.counted, Workflow.advanced?, Workflow.isRunning, haborted]
  have hjudged : ∀ verdict, scene.workflow.judged verdict = scene.workflow := by
    intro verdict
    cases verdict with
    | none => rfl
    | some status =>
      simp [Workflow.judged, Workflow.ended, Workflow.finished?, haborted,
        Workflow.Status.canBecome]
  have hlate : scene.workflow.isEarly = false := by
    simp [Workflow.isEarly, Workflow.isRunning, haborted]
  rw [answered, if_neg (by simp [hlate]), settled, hcounted, hjudged,
    Orchestrator.merged_of_not_both hnot]

/-- An answer that comes too early ends the workflow, and without rules both runs. -/
theorem answered_early (scene : Scene) (hearly : scene.workflow.isEarly = true)
    (hkind : scene.task.kind = some .saMl) (hopen : scene.task.bothTerminal = false) :
    scene.answered o unruled = { scene with
      workflow := scene.workflow.counted.ended .aborted
      task := if unruled scene.workflow.templateId then scene.task.givenUp else scene.task } := by
  have hnot : scene.task.bothSucceeded = false := not_both_of_open hopen
  have hverdict : Orchestrator.verdict? scene.task = none := by
    simp [Orchestrator.verdict?, hkind, hnot, hopen]
  have htemplate : scene.workflow.counted.templateId = scene.workflow.templateId :=
    Workflow.templateId_of_given scene.workflow.counted_given
  rw [answered, if_pos hearly, settled, hverdict, Orchestrator.merged_of_not_both hnot, givenUp]
  simp only [Workflow.judged, htemplate]

theorem ended_counted_status (hearly : scene.workflow.isEarly = true) :
    (scene.workflow.counted.ended .aborted).status = .aborted := by
  simp only [Workflow.isEarly, Bool.and_eq_true, Workflow.isRunning_iff, decide_eq_true_eq]
    at hearly
  rw [Workflow.counted, Workflow.advanced?_eq_stepped hearly.1 (by omega), Option.getD_some]
  exact Orchestrator.abortedAt_status (by simp [Workflow.stepped, hearly.1])

theorem failed_of_awaited {status : RunStatus} (hpending : status = .pending)
    (hmay : status.canBecome (.ofSuccess succeeded) = true) : succeeded = false := by
  rw [hpending] at hmay
  cases succeeded with
  | true => cases hmay
  | false => rfl

theorem saEnded_failed (hfailed : sa.success = false) :
    scene.saEnded sa = { scene with task := scene.task.saEnded false [] 0 } := by
  have hrules : sa.rules = [] := by simp [SaFinished.rules, hfailed]
  rw [saEnded, hrules, hfailed]
  dsimp only [storedReports]
  rw [Orchestrator.after_insertGroups_nil]
  rfl

theorem mlEnded_failed (hfailed : ml.success = false) :
    scene.mlEnded ml = { scene with task := scene.task.mlEnded false none } := by
  rw [mlEnded, hfailed]
  rfl

/-- Two failures before the analysis has been dispatched. -/
theorem answered_early_comm (hearly : scene.workflow.isEarly = true)
    (hpending : scene.task.sa.status = .pending ∧ scene.task.ml.status = .pending)
    (hsa : scene.task.awaitsSa sa.success = true) (hml : scene.task.awaitsMl ml.success = true) :
    (scene.saAnswered o unruled sa).mlAnswered o unruled ml =
      (scene.mlAnswered o unruled ml).saAnswered o unruled sa := by
  obtain ⟨hrunsSa, hmaySa⟩ := Bool.and_eq_true_iff.mp hsa
  obtain ⟨hrunsMl, hmayMl⟩ := Bool.and_eq_true_iff.mp hml
  have hkind := Task.kind_of_both hrunsSa hrunsMl
  have hsaFailed := failed_of_awaited hpending.1 hmaySa
  have hmlFailed := failed_of_awaited hpending.2 hmayMl
  have hopenSa : scene.task.sa.status.isTerminal = false := RunStatus.open_of_canBecome hmaySa
  have hopenMl : scene.task.ml.status.isTerminal = false := RunStatus.open_of_canBecome hmayMl
  have haborted := ended_counted_status hearly
  rw [saAnswered_of_awaited hsa, mlAnswered_of_awaited hml, saEnded_failed hsaFailed,
    mlEnded_failed hmlFailed]
  rw [answered_early { scene with task := scene.task.saEnded false [] 0 } hearly hkind
      (by simp [Task.bothTerminal, Task.saEnded, hopenMl]),
    answered_early { scene with task := scene.task.mlEnded false none } hearly hkind
      (by simp [Task.bothTerminal, Task.mlEnded, hopenSa])]
  have hgivenUp : (scene.task.saEnded false [] 0).givenUp =
      (scene.task.saEnded false [] 0).mlEnded false none := by
    have hruns : (scene.task.saEnded false [] 0).runsMl = true := hrunsMl
    have hopen : (scene.task.saEnded false [] 0).ml.status.isTerminal = false := hopenMl
    have hended : (scene.task.saEnded false [] 0).sa.status.isTerminal = true := rfl
    rw [Task.givenUp, Task.saGivenUp, if_pos hended, Task.mlGivenUp,
      if_pos (by simp [hruns, hopen])]
  have hother : (scene.task.mlEnded false none).givenUp =
      (scene.task.mlEnded false none).saEnded false [] 0 := by
    have hopen : (scene.task.mlEnded false none).sa.status.isTerminal = false := hopenSa
    rw [Task.givenUp, Task.saGivenUp, if_neg (by simp [hopen]), Task.mlGivenUp, if_neg]
    simp [Task.saEnded, Task.mlEnded, RunStatus.ofSuccess, RunStatus.isTerminal]
  -- The workflow has been ended either way; the second run was given up, or ends now.
  cases hunruled : unruled scene.workflow.templateId with
  | true =>
    simp only [if_true, hgivenUp, hother]
    rw [mlAnswered_of_idle, saAnswered_of_idle]
    · rfl
    · rw [hsaFailed]
      exact Bool.and_false _
    · rw [hmlFailed]
      exact Bool.and_false _
  | false =>
    simp only [Bool.false_eq_true, if_false]
    have hstillMl : ({ scene with
        workflow := scene.workflow.counted.ended .aborted
        task := scene.task.saEnded false [] 0 } : Scene).task.awaitsMl ml.success = true := hml
    have hstillSa : ({ scene with
        workflow := scene.workflow.counted.ended .aborted
        task := scene.task.mlEnded false none } : Scene).task.awaitsSa sa.success = true := hsa
    rw [mlAnswered_of_awaited hstillMl, saAnswered_of_awaited hstillSa, mlEnded_failed hmlFailed,
      saEnded_failed hsaFailed]
    rw [answered_aborted _ haborted (by simp [Task.bothSucceeded, Task.mlEnded,
        RunStatus.ofSuccess]),
      answered_aborted _ haborted (by simp [Task.bothSucceeded, Task.saEnded,
        RunStatus.ofSuccess])]
    rfl

/-- The answers of the two engines to one workflow commute. -/
theorem saAnswered_mlAnswered (hpending : scene.workflow.isEarly = true →
      scene.task.sa.status = .pending ∧ scene.task.ml.status = .pending) :
    (scene.saAnswered o unruled sa).mlAnswered o unruled ml =
      (scene.mlAnswered o unruled ml).saAnswered o unruled sa := by
  cases hsa : scene.task.awaitsSa sa.success with
  | false =>
    have hidle : (scene.mlAnswered o unruled ml).task.awaitsSa sa.success = false := by
      rw [← Bool.not_eq_true]
      intro hawaits
      unfold mlAnswered at hawaits
      split at hawaits
      · have hbefore := awaitsSa_of_answered hawaits
        rw [mlEnded_awaitsSa, hsa] at hbefore
        cases hbefore
      · rw [hsa] at hawaits
        cases hawaits
    rw [saAnswered_of_idle hsa, saAnswered_of_idle hidle]
  | true =>
    cases hml : scene.task.awaitsMl ml.success with
    | false =>
      have hidle : (scene.saAnswered o unruled sa).task.awaitsMl ml.success = false := by
        rw [← Bool.not_eq_true]
        intro hawaits
        rw [saAnswered_of_awaited hsa] at hawaits
        have hbefore := awaitsMl_of_answered hawaits
        rw [saEnded_awaitsMl, hml] at hbefore
        cases hbefore
      rw [mlAnswered_of_idle hml, mlAnswered_of_idle hidle]
    | true =>
      cases hearly : scene.workflow.isEarly with
      | false => exact answered_late_comm hearly hsa hml
      | true => exact answered_early_comm hearly (hpending hearly) hsa hml

/-! ### What an answer leaves of a scene -/

theorem answered_given : (scene.answered o unruled).workflow.given = scene.workflow.given ∧
    (scene.answered o unruled).task.id = scene.task.id := by
  have hworkflow : (scene.settled o).workflow.given = scene.workflow.given :=
    (Workflow.judged_given _ _).trans (Workflow.counted_given _)
  have htask : (scene.settled o).task.id = scene.task.id :=
    congrArg (fun course => course.1) settled_course
  unfold answered
  split
  · refine ⟨(Workflow.ended_given _ _).trans hworkflow, ?_⟩
    unfold givenUp
    dsimp only
    split
    · exact (Task.givenUp_id _).trans htask
    · exact htask
  · exact ⟨hworkflow, htask⟩

theorem saAnswered_given :
    (scene.saAnswered o unruled sa).workflow.given = scene.workflow.given ∧
      (scene.saAnswered o unruled sa).task.id = scene.task.id := by
  unfold saAnswered
  split
  · exact answered_given
  · exact ⟨rfl, rfl⟩

theorem mlAnswered_given :
    (scene.mlAnswered o unruled ml).workflow.given = scene.workflow.given ∧
      (scene.mlAnswered o unruled ml).task.id = scene.task.id := by
  unfold mlAnswered
  split
  · exact answered_given
  · exact ⟨rfl, rfl⟩

/-- Of what has been stored of findings, an answer of the machine-learning engine reads the
results of its task only. -/
theorem mlAnswered_beside {groups : List FindingGroup} {findings : Table Finding}
    {nextNumber : Nat}
    (hresults : ({ scene with groups, findings, nextNumber } : Scene).results = scene.results) :
    ({ scene with groups, findings, nextNumber } : Scene).mlAnswered o unruled ml =
      { scene.mlAnswered o unruled ml with groups, findings, nextNumber } := by
  have hended : (({ scene with groups, findings, nextNumber } : Scene).mlEnded ml).results =
      (scene.mlEnded ml).results := hresults
  have hsettled : (({ scene with groups, findings, nextNumber } : Scene).mlEnded ml).settled o =
      { (scene.mlEnded ml).settled o with groups, findings, nextNumber } := by
    rw [settled, hended]
    rfl
  unfold mlAnswered
  dsimp only
  split
  · unfold answered
    rw [hsettled]
    change (if (scene.mlEnded ml).workflow.isEarly = true then _ else _) = _
    split
    · rfl
    · rfl
  · rfl

theorem answered_stored : (scene.answered o unruled).groups = scene.groups ∧
    (scene.answered o unruled).findings = scene.findings ∧
      (scene.answered o unruled).nextNumber = scene.nextNumber := by
  unfold answered
  split
  · exact ⟨rfl, rfl, rfl⟩
  · exact ⟨rfl, rfl, rfl⟩

/-- An answer of the static analysis stores its findings under fresh numbers, or none. -/
theorem saAnswered_stored :
    (scene.saAnswered o unruled sa).groups = scene.groups ∧
        (scene.saAnswered o unruled sa).findings = scene.findings ∨
      (scene.saAnswered o unruled sa).groups = (scene.after .origin (.insertGroups scene.task.id
          (storedReports scene.task.id scene.nextNumber sa.rules))).groups ∧
        (scene.saAnswered o unruled sa).findings = (scene.after .origin (.insertGroups
          scene.task.id (storedReports scene.task.id scene.nextNumber sa.rules))).findings := by
  unfold saAnswered
  split
  · exact Or.inr ⟨answered_stored.1, answered_stored.2.1⟩
  · exact Or.inl ⟨rfl, rfl⟩

theorem mlAnswered_stored : (scene.mlAnswered o unruled ml).groups = scene.groups ∧
    (scene.mlAnswered o unruled ml).findings = scene.findings ∧
      (scene.mlAnswered o unruled ml).nextNumber = scene.nextNumber := by
  unfold mlAnswered
  split
  · exact answered_stored
  · exact ⟨rfl, rfl, rfl⟩

theorem mlAnswered_numbered (nextNumber : Nat) :
    ({ scene with nextNumber } : Scene).mlAnswered o unruled ml =
      { scene.mlAnswered o unruled ml with nextNumber } := by
  have hgroups : (scene.mlAnswered o unruled ml).groups = scene.groups := mlAnswered_stored.1
  have hfindings : (scene.mlAnswered o unruled ml).findings = scene.findings :=
    mlAnswered_stored.2.1
  refine (mlAnswered_beside rfl).trans ?_
  rw [mk.injEq]
  exact ⟨rfl, rfl, hgroups.symm, hfindings.symm, rfl⟩

end Scene

/-! ### Systems -/

namespace System

open Orchestrator

/-- The two systems hold the same, but for the moments in workflows and tasks. -/
structure Alike (system other : System) : Prop where
  workflows : ∀ id, (system.store.workflows.get? id).map Workflow.timeless =
    (other.store.workflows.get? id).map Workflow.timeless
  tasks : ∀ id, (system.store.tasks.get? id).map Task.timeless =
    (other.store.tasks.get? id).map Task.timeless
  groups : system.store.groups = other.store.groups
  findings : system.store.findings = other.store.findings
  frame : system.frame = other.frame

/-- One workflow has been led to an expected scene, and all others have been spared. -/
structure Moved (system : System) (scene expected : Scene) (final : System) : Prop where
  leads : Leads system expected final
  spares : scene.Spares system final
  workflow : expected.workflow.given = scene.workflow.given
  task : expected.task.id = scene.task.id

namespace Moved

variable {system final : System} {scene expected : Scene}

theorem workflows (h : system.Moved scene expected final) (id : Uuid) :
    (final.store.workflows.get? id).map Workflow.timeless =
      if id = scene.workflow.id then some expected.workflow
      else (system.store.workflows.get? id).map Workflow.timeless := by
  obtain ⟨reached, hreached, _, rfl⟩ := h.leads
  split
  · rename_i hid
    have hstored := hreached.workflow
    have hsame : reached.workflow.id = scene.workflow.id :=
      Workflow.id_of_given h.workflow
    rw [hsame, ← hid] at hstored
    rw [hstored]
    rfl
  · rename_i hid
    rw [h.spares.workflows id hid]

theorem tasks (h : system.Moved scene expected final) (id : Uuid) :
    (final.store.tasks.get? id).map Task.timeless =
      if id = scene.task.id then some expected.task
      else (system.store.tasks.get? id).map Task.timeless := by
  obtain ⟨reached, hreached, _, rfl⟩ := h.leads
  split
  · rename_i hid
    have hstored := hreached.task
    have hsame : reached.task.id = scene.task.id := h.task
    rw [hsame, ← hid] at hstored
    rw [hstored]
    rfl
  · rename_i hid
    rw [h.spares.tasks id hid]

theorem kept (h : system.Moved scene expected final) :
    final.store.groups = expected.groups ∧ final.store.findings = expected.findings ∧
      final.frame = system.frame := by
  obtain ⟨reached, hreached, hframe, rfl⟩ := h.leads
  exact ⟨hreached.groups, hreached.findings, hframe⟩

end Moved

variable {o : Orchestrator} {start system final : System} {scene : Scene}

theorem Shows.unique {other : Scene} (hshows : system.Shows scene) (hother : system.Shows other)
    (hid : scene.workflow.id = other.workflow.id) : scene = other := by
  have hworkflow := hshows.workflow
  rw [hid, hother.workflow, Option.some.injEq] at hworkflow
  have htask := hshows.task
  rw [← hshows.linked, ← hworkflow, hother.linked, hother.task, Option.some.injEq] at htask
  obtain ⟨workflow, task, groups, findings, nextNumber⟩ := scene
  obtain ⟨_, _, _, _, _⟩ := other
  cases hworkflow
  cases htask
  cases hshows.groups.symm.trans hother.groups
  cases hshows.findings.symm.trans hother.findings
  cases hshows.nextNumber.symm.trans hother.nextNumber
  rfl

/-- The scene on which a workflow is shown is in order. -/
theorem Sound.shown (hsound : system.Sound) (hshows : system.Shows scene) :
    Matched scene.workflow scene.task ∧ Phase scene.workflow scene.task := by
  obtain ⟨other, hworkflow, hother, hmatched, hphase⟩ := hsound.scene hshows.workflow
  have hsame : other = scene := hother.unique hshows (by rw [hworkflow])
  subst hsame
  exact ⟨hmatched, hphase⟩

theorem sa_moved (hsound : system.Sound) (hshows : system.Shows scene) {answer : SaFinished}
    (hworkflow : answer.workflowId = scene.workflow.id) (htask : answer.taskId = scene.task.id)
    {outcome : Except ServiceError Unit}
    (hruns : (o.process (.sa answer)).Runs system outcome final) :
    ∃ nextNumber, system.Moved scene
      { scene.timeless.saAnswered o system.store.unruled answer with nextNumber } final := by
  obtain ⟨hmatched, hphase⟩ := hsound.shown hshows
  obtain ⟨_, _, _, _, _, hspares, _⟩ :=
    (process_alone hshows.linked hmatched hphase (.sa answer) hworkflow).runs hshows hruns
  obtain ⟨nextNumber, hleads⟩ :=
    (onSaFinished_leads hsound hshows hmatched hphase hworkflow htask).runs hruns
  exact ⟨nextNumber, hleads, hspares, Scene.saAnswered_given.1, Scene.saAnswered_given.2⟩

theorem ml_moved (hsound : system.Sound) (hshows : system.Shows scene) {answer : MlFinished}
    (hworkflow : answer.workflowId = scene.workflow.id) (htask : answer.taskId = scene.task.id)
    {outcome : Except ServiceError Unit}
    (hruns : (o.process (.ml answer)).Runs system outcome final) :
    system.Moved scene (scene.timeless.mlAnswered o system.store.unruled answer) final := by
  obtain ⟨hmatched, hphase⟩ := hsound.shown hshows
  obtain ⟨_, _, _, _, _, hspares, _⟩ :=
    (process_alone hshows.linked hmatched hphase (.ml answer) hworkflow).runs hshows hruns
  exact ⟨(onMlFinished_leads hsound hshows hmatched hphase hworkflow htask).runs hruns, hspares,
    Scene.mlAnswered_given.1, Scene.mlAnswered_given.2⟩

/-! ### Results of other tasks -/

/-- Only reports under the wanted identifiers are picked. -/
theorem pickReports_map {wanted : List Uuid} {reports : List GroupReport}
    {view : GroupReport → GroupReport}
    (hids : ∀ report, (view report).group.id = report.group.id)
    (hsame : ∀ report ∈ reports, report.group.id ∈ wanted → view report = report) :
    pickReports (reports.map view) wanted = pickReports reports wanted := by
  induction wanted generalizing reports with
  | nil => rfl
  | cons id rest ih =>
    have hothers : (reports.map view).filter (fun report => report.group.id ≠ id) =
        (reports.filter fun report => report.group.id ≠ id).map view := by
      rw [List.filter_map]
      simp only [Function.comp_def, hids]
    have hfound : ((reports.map view).reverse.find? fun report => report.group.id = id) =
        (reports.reverse.find? fun report => report.group.id = id).map view := by
      rw [← List.map_reverse, List.find?_map]
      simp only [Function.comp_def, hids]
    rw [pickReports, pickReports, hfound, hothers]
    cases hfirst : reports.reverse.find? fun report => report.group.id = id with
    | none =>
      dsimp only [Option.map_none]
      apply ih
      intro report member hwanted
      exact hsame report (List.mem_filter.mp member).1 (List.mem_cons_of_mem _ hwanted)
    | some first =>
      have hid : first.group.id = id := by simpa using List.find?_some hfirst
      have hmember : first ∈ reports := List.mem_reverse.mp (List.mem_of_find?_eq_some hfirst)
      dsimp only [Option.map_some]
      rw [hsame first hmember (hid ▸ List.mem_cons_self)]
      congr 1
      apply ih
      intro report member hwanted
      exact hsame report (List.mem_filter.mp member).1 (List.mem_cons_of_mem _ hwanted)

/-- What is stored about another task is not about this one. -/
theorem storedReports_foreign {taskId other : Uuid} (hother : taskId ≠ other) (first : Nat)
    (rules : List (String × SaRuleResult)) :
    ((storedReports taskId first rules).map GroupReport.group).filter
      (fun group => group.taskId = other) = [] := by
  rw [List.filter_eq_nil_iff]
  intro group member
  obtain ⟨report, hreport, rfl⟩ := List.mem_map.mp member
  simpa [(storedReports_own hreport).1] using hother

/-- The findings of a group have been numbered before, so that fresh ones replace none of them. -/
theorem Filed.lookup_beside (hfiled : start.Filed system) {group : FindingGroup}
    (hstored : group ∈ system.store.groups) (hsince : group.id.Since start.nextNumber)
    (taskId : Uuid) (rules : List (String × SaRuleResult)) (findings : Table Finding) {id : Uuid}
    (hid : id ∈ group.findingIds) :
    (((storedReports taskId system.nextNumber rules).flatMap GroupReport.findings).foldl
      (fun table finding => table.insert finding.id finding) findings).get? id =
        findings.get? id := by
  obtain ⟨n, hless, rfl⟩ := hfiled.groups group hstored hsince id hid
  apply SortedMap.get?_foldl_insert_of_not_mem Finding.id (fun finding => finding)
  intro finding hfinding heq
  obtain ⟨m, hfirst, _, hown⟩ := mem_numbered.mp (storedReports_finding_id hfinding)
  have hsame : m = n := Uuid.generated_injective (hown.symm.trans heq)
  omega

/-- What is stored about another task under fresh numbers is not among the results of this
one. -/
theorem Filed.results_beside (hfiled : start.Filed system) (hshows : system.Shows scene)
    {taskId : Uuid} (hother : taskId ≠ scene.task.id) (rules : List (String × SaRuleResult))
    (nextNumber : Nat) (now : Timestamp) :
    ({ scene.after now (.insertGroups taskId (storedReports taskId scene.nextNumber rules)) with
      nextNumber } : Scene).results = scene.results := by
  have hnew : start.store.tasks.get? scene.task.id = none :=
    hshows.linked ▸ hfiled.linked _ _ hshows.workflow
  have hown := ownReports_storedReports taskId scene.nextNumber rules
  have hnone := storedReports_foreign hother scene.nextNumber rules
  rw [Scene.after_insertGroups, if_pos hown]
  unfold Scene.results Scene.reports
  dsimp only
  rw [List.filter_append, hnone, List.append_nil]
  let view (report : GroupReport) : GroupReport :=
    ⟨report.group, report.group.findingIds.filterMap (((storedReports taskId scene.nextNumber
      rules).flatMap GroupReport.findings).foldl (fun table finding =>
        table.insert finding.id finding) scene.findings).get?⟩
  have hview : (scene.groups.filter fun group => group.taskId = scene.task.id).map
      (fun group => view ⟨group, group.findingIds.filterMap scene.findings.get?⟩) =
        ((scene.groups.filter fun group => group.taskId = scene.task.id).map fun group =>
          (⟨group, group.findingIds.filterMap scene.findings.get?⟩ : GroupReport)).map view := by
    rw [List.map_map]
    rfl
  refine (congrArg (pickReports · _) hview).trans (pickReports_map (fun _ => rfl) ?_)
  intro report member hwanted
  obtain ⟨group, hgroup, rfl⟩ := List.mem_map.mp member
  have hstored : group ∈ system.store.groups := hshows.groups ▸ (List.mem_filter.mp hgroup).1
  have hsince := hfiled.results _ _ hshows.task hnew _ hwanted
  have hlookup : ∀ id ∈ group.findingIds, (((storedReports taskId scene.nextNumber
      rules).flatMap GroupReport.findings).foldl (fun table finding =>
        table.insert finding.id finding) scene.findings).get? id = scene.findings.get? id := by
    rw [← hshows.nextNumber]
    exact fun id => hfiled.lookup_beside hstored hsince taskId rules scene.findings
  exact congrArg (GroupReport.mk group) (List.filterMap_congr hlookup)

/-! ### Messages that name no stored pair -/

def Pairs (system : System) (workflowId taskId : Uuid) : Prop :=
  ∃ workflow task, system.store.workflows.get? workflowId = some workflow ∧
    system.store.tasks.get? taskId = some task ∧ workflow.taskId = task.id

theorem sa_unpaired {answer : SaFinished} (hnone : ¬ system.Pairs answer.workflowId answer.taskId)
    {outcome : Except ServiceError Unit}
    (hruns : (o.process (.sa answer)).Runs system outcome final) : final = system := by
  have hidle : (o.onSaFinished answer).Through (fun _ => True) system
      fun _ final => final = system := by
    unfold onSaFinished
    rw [Program.through_bind]
    exact resolve_reads trivial rfl fun workflow task hworkflow htask hlinked =>
      absurd ⟨workflow, task, hworkflow, htask, hlinked⟩ hnone
  exact hidle.runs hruns

theorem ml_unpaired {answer : MlFinished} (hnone : ¬ system.Pairs answer.workflowId answer.taskId)
    {outcome : Except ServiceError Unit}
    (hruns : (o.process (.ml answer)).Runs system outcome final) : final = system := by
  have hidle : (o.onMlFinished answer).Through (fun _ => True) system
      fun _ final => final = system := by
    unfold onMlFinished
    rw [Program.through_bind]
    exact resolve_reads trivial rfl fun workflow task hworkflow htask hlinked =>
      absurd ⟨workflow, task, hworkflow, htask, hlinked⟩ hnone
  exact hidle.runs hruns

/-- An answer makes no pair. -/
theorem Moved.pairs {expected : Scene} (h : system.Moved scene expected final)
    (hshows : system.Shows scene) {workflowId taskId : Uuid}
    (hpairs : final.Pairs workflowId taskId) : system.Pairs workflowId taskId := by
  obtain ⟨workflow, task, hworkflow, htask, hlinked⟩ := hpairs
  have hbefore : ∃ before, system.store.workflows.get? workflowId = some before ∧
      before.taskId = workflow.taskId := by
    have hstored := h.workflows workflowId
    rw [hworkflow] at hstored
    split at hstored
    · rename_i hid
      refine ⟨scene.workflow, hid ▸ hshows.workflow, ?_⟩
      have hsame := Workflow.taskId_of_given h.workflow
      rw [← Option.some.inj hstored] at hsame
      exact hsame.symm
    · obtain ⟨before, hbefore, hsame⟩ := Option.map_eq_some_iff.mp hstored.symm
      have heq : before.timeless.taskId = workflow.timeless.taskId := congrArg _ hsame
      exact ⟨before, hbefore, heq⟩
  have hfound : ∃ before, system.store.tasks.get? taskId = some before ∧ before.id = task.id := by
    have hstored := h.tasks taskId
    rw [htask] at hstored
    split at hstored
    · rename_i hid
      refine ⟨scene.task, hid ▸ hshows.task, ?_⟩
      have hsame := h.task
      rw [← Option.some.inj hstored] at hsame
      exact hsame.symm
    · obtain ⟨before, hbefore, hsame⟩ := Option.map_eq_some_iff.mp hstored.symm
      have heq : before.timeless.id = task.timeless.id := congrArg _ hsame
      exact ⟨before, hbefore, heq⟩
  obtain ⟨before, hbefore, htaskId⟩ := hbefore
  obtain ⟨found, hfound, hid⟩ := hfound
  exact ⟨before, found, hbefore, hfound, htaskId.trans (hlinked.trans hid.symm)⟩

/-! ### Either order -/

/-- Two ways to lead the same workflow to the same scene, but for numbers. -/
theorem Moved.alike {expected : Scene} {other : System} {m n : Nat}
    (h : system.Moved scene { expected with nextNumber := m } final)
    (hother : system.Moved scene { expected with nextNumber := n } other) :
    final.Alike other where
  workflows id := (h.workflows id).trans (hother.workflows id).symm
  tasks id := (h.tasks id).trans (hother.tasks id).symm
  groups := h.kept.1.trans hother.kept.1.symm
  findings := h.kept.2.1.trans hother.kept.2.1.symm
  frame := h.kept.2.2.trans hother.kept.2.2.symm

/-- The scene that has been reached is the same workflow with the same task. -/
theorem Moved.reached {expected : Scene} (h : system.Moved scene expected final) :
    ∃ reached, final.Shows reached ∧ reached.timeless = expected ∧
      reached.workflow.given = scene.workflow.given ∧ reached.task.id = scene.task.id := by
  obtain ⟨reached, hreached, _, rfl⟩ := h.leads
  exact ⟨reached, hreached, rfl, h.workflow, h.task⟩

theorem Moved.trans {expected last reached : Scene} {mid : System}
    (h : system.Moved scene expected mid) (hgiven : reached.workflow.given = scene.workflow.given)
    (hid : reached.task.id = scene.task.id) (hnext : mid.Moved reached last final) :
    system.Moved scene last final where
  leads := hnext.leads.of_frame h.kept.2.2
  spares := h.spares.trans
    (hnext.spares.of_same_ids (Workflow.id_of_given hgiven) hid)
  workflow := hnext.workflow.trans hgiven
  task := hnext.task.trans hid

variable {sa : SaFinished} {ml : MlFinished} {afterSa afterMl saThenMl mlThenSa : System}
  {first second third fourth : Except ServiceError Unit}

/-- Both answers are about one workflow. -/
theorem commute_together (hsound : system.Sound) (hshows : system.Shows scene)
    (hsaWorkflow : sa.workflowId = scene.workflow.id) (hsaTask : sa.taskId = scene.task.id)
    (hmlWorkflow : ml.workflowId = scene.workflow.id) (hmlTask : ml.taskId = scene.task.id)
    (hsa : (o.process (.sa sa)).Runs system first afterSa)
    (hthenMl : (o.process (.ml ml)).Runs afterSa second saThenMl)
    (hml : (o.process (.ml ml)).Runs system third afterMl)
    (hthenSa : (o.process (.sa sa)).Runs afterMl fourth mlThenSa) : saThenMl.Alike mlThenSa := by
  obtain ⟨m, hfirst⟩ := sa_moved hsound hshows hsaWorkflow hsaTask hsa
  obtain ⟨met, hmet, hmetScene, hgiven, hid⟩ := hfirst.reached
  have hsecond := ml_moved (hsound.process hsa).1 hmet
    (hmlWorkflow.trans (Workflow.id_of_given hgiven).symm) (hmlTask.trans hid.symm)
    hthenMl
  have hone := hfirst.trans hgiven hid hsecond
  rw [hmetScene, Store.unruled_of_frame hfirst.kept.2.2, Scene.mlAnswered_numbered] at hone
  have hthird := ml_moved hsound hshows hmlWorkflow hmlTask hml
  obtain ⟨met, hmet, hmetScene, hgiven, hid⟩ := hthird.reached
  obtain ⟨n, hfourth⟩ := sa_moved (hsound.process hml).1 hmet
    (hsaWorkflow.trans (Workflow.id_of_given hgiven).symm) (hsaTask.trans hid.symm)
    hthenSa
  have hother := hthird.trans hgiven hid hfourth
  have hpending : scene.timeless.workflow.isEarly = true →
      scene.timeless.task.sa.status = .pending ∧ scene.timeless.task.ml.status = .pending := by
    intro hearly
    have hcompiling := compiling_of_early (hsound.shown hshows).2 hearly
    exact ⟨hcompiling.sa, hcompiling.ml⟩
  rw [hmetScene, Store.unruled_of_frame hthird.kept.2.2,
    ← Scene.saAnswered_mlAnswered hpending] at hother
  exact hone.alike hother

/-- A workflow that is spared is shown as before, beside what is stored of findings then. -/
theorem Shows.spared {other : Scene} (hother : system.Shows other)
    (hspares : scene.Spares system final) (hkeyed : final.store.Keyed)
    (hcodes : ∀ id, (system.store.codes.get? id).isSome → (final.store.codes.get? id).isSome)
    (hworkflow : other.workflow.id ≠ scene.workflow.id) (htask : other.task.id ≠ scene.task.id) :
    final.Shows { other with
      groups := final.store.groups
      findings := final.store.findings
      nextNumber := final.nextNumber } where
  keyed := hkeyed
  workflow := (hspares.workflows _ hworkflow).trans hother.workflow
  task := (hspares.tasks _ htask).trans hother.task
  linked := hother.linked
  code := hcodes _ hother.code
  groups := rfl
  findings := rfl
  nextNumber := rfl

/-- What an answer of the static analysis has stored is not among the results of another task. -/
theorem Moved.results_beside {other : Scene} {m : Nat} {unruled : Option Uuid → Bool}
    (hmoved : system.Moved scene
      { scene.timeless.saAnswered o unruled sa with nextNumber := m } afterSa)
    (hfiled : start.Filed system) (hshows : system.Shows scene) (hother : system.Shows other)
    (hapart : scene.task.id ≠ other.task.id) :
    ({ other.timeless with
      groups := afterSa.store.groups
      findings := afterSa.store.findings
      nextNumber := afterSa.nextNumber } : Scene).results = other.timeless.results := by
  obtain ⟨hgroups, hfindings, _⟩ := hmoved.kept
  have hsameGroups : scene.groups = other.groups := hshows.groups.symm.trans hother.groups
  have hsameFindings : scene.findings = other.findings :=
    hshows.findings.symm.trans hother.findings
  have hsameNumber : scene.nextNumber = other.nextNumber :=
    hshows.nextNumber.symm.trans hother.nextNumber
  rcases Scene.saAnswered_stored with ⟨hold, holdFindings⟩ | ⟨hnew, hnewFindings⟩
  · rw [hgroups.trans (hold.trans hsameGroups),
      hfindings.trans (holdFindings.trans hsameFindings)]
    rfl
  · rw [hgroups.trans hnew, hfindings.trans hnewFindings]
    unfold Scene.after
    dsimp only [Scene.timeless]
    rw [hsameGroups, hsameFindings, hsameNumber]
    exact hfiled.results_beside hother hapart sa.rules afterSa.nextNumber .origin

/-- An answer of the machine-learning engine leaves the scene of another workflow as it is. -/
theorem Moved.shows_beside {other : Scene} {unruled : Option Uuid → Bool}
    (hmoved : system.Moved other (other.timeless.mlAnswered o unruled ml) afterMl)
    (hshows : system.Shows scene) (hother : system.Shows other) (hkeyed : afterMl.store.Keyed)
    (hcodes : ∀ id, (system.store.codes.get? id).isSome → (afterMl.store.codes.get? id).isSome)
    (hapart : scene.workflow.id ≠ other.workflow.id)
    (hapartTasks : scene.task.id ≠ other.task.id) : afterMl.Shows scene := by
  have hagain := hshows.spared hmoved.spares hkeyed hcodes hapart hapartTasks
  obtain ⟨reached, hreached, hexpected, _, _⟩ := hmoved.reached
  have hgroups : reached.timeless.groups = other.groups := by
    rw [hexpected]
    exact Scene.mlAnswered_stored.1
  have hfindings : reached.timeless.findings = other.findings := by
    rw [hexpected]
    exact Scene.mlAnswered_stored.2.1
  have hnumber : reached.timeless.nextNumber = other.nextNumber := by
    rw [hexpected]
    exact Scene.mlAnswered_stored.2.2
  rwa [hreached.groups.trans (hgroups.trans (hother.groups.symm.trans hshows.groups)),
    hreached.findings.trans (hfindings.trans (hother.findings.symm.trans hshows.findings)),
    hreached.nextNumber.trans (hnumber.trans (hother.nextNumber.symm.trans hshows.nextNumber))]
    at hagain

/-- The answers are about different workflows. -/
theorem commute_apart (hsound : system.Sound) (hfiled : start.Filed system)
    {other : Scene} (hshows : system.Shows scene) (hother : system.Shows other)
    (hapart : scene.workflow.id ≠ other.workflow.id)
    (hsaWorkflow : sa.workflowId = scene.workflow.id) (hsaTask : sa.taskId = scene.task.id)
    (hmlWorkflow : ml.workflowId = other.workflow.id) (hmlTask : ml.taskId = other.task.id)
    (hsa : (o.process (.sa sa)).Runs system first afterSa)
    (hthenMl : (o.process (.ml ml)).Runs afterSa second saThenMl)
    (hml : (o.process (.ml ml)).Runs system third afterMl)
    (hthenSa : (o.process (.sa sa)).Runs afterMl fourth mlThenSa) : saThenMl.Alike mlThenSa := by
  have hapartTasks : scene.task.id ≠ other.task.id := by
    intro heq
    apply hapart
    refine hsound.apart _ _ _ _ hshows.workflow hother.workflow ?_
    rw [hshows.linked, hother.linked, heq]
  obtain ⟨m, hfirst⟩ := sa_moved hsound hshows hsaWorkflow hsaTask hsa
  have hthird := ml_moved hsound hother hmlWorkflow hmlTask hml
  have hkeyed : system.store.Keyed := hshows.keyed
  -- The second answer finds its workflow as it was, and what it reads of findings.
  have hbeside := hother.spared hfirst.spares (hsa.keyed hkeyed) (fun _ => hsa.code_known)
    hapart.symm hapartTasks.symm
  have hresults := hfirst.results_beside hfiled hshows hother hapartTasks
  have hsecond := ml_moved (hsound.process hsa).1 hbeside hmlWorkflow hmlTask hthenMl
  change afterSa.Moved _ (({ other.timeless with
    groups := afterSa.store.groups
    findings := afterSa.store.findings
    nextNumber := afterSa.nextNumber } : Scene).mlAnswered o _ ml) saThenMl at hsecond
  rw [Scene.mlAnswered_beside hresults, Store.unruled_of_frame hfirst.kept.2.2] at hsecond
  have hsame := hthird.shows_beside hshows hother (hml.keyed hkeyed) (fun _ => hml.code_known)
    hapart hapartTasks
  obtain ⟨n, hfourth⟩ := sa_moved (hsound.process hml).1 hsame hsaWorkflow hsaTask hthenSa
  rw [Store.unruled_of_frame hthird.kept.2.2] at hfourth
  refine ⟨fun id => ?_, fun id => ?_, ?_, ?_, ?_⟩
  · rw [hsecond.workflows, hfirst.workflows, hfourth.workflows, hthird.workflows]
    by_cases hid : id = scene.workflow.id
    · simp [hid, hapart]
    · simp [hid]
  · rw [hsecond.tasks, hfirst.tasks, hfourth.tasks, hthird.tasks]
    by_cases hid : id = scene.task.id
    · simp [hid, hapartTasks]
    · simp [hid]
  · rw [hsecond.kept.1, hfourth.kept.1, hfirst.kept.1]
  · rw [hsecond.kept.2.1, hfourth.kept.2.1, hfirst.kept.2.1]
  · rw [hsecond.kept.2.2, hfourth.kept.2.2, hfirst.kept.2.2, hthird.kept.2.2]

/-- Whichever of two answers of the two engines is processed first, about one workflow or two,
expected or not, the same is stored and published in the end, but for the moments. -/
theorem answers_commute (hinitial : start.Initial) (hreach : Reaches o start system)
    (hsa : (o.process (.sa sa)).Runs system first afterSa)
    (hthenMl : (o.process (.ml ml)).Runs afterSa second saThenMl)
    (hml : (o.process (.ml ml)).Runs system third afterMl)
    (hthenSa : (o.process (.sa sa)).Runs afterMl fourth mlThenSa) : saThenMl.Alike mlThenSa := by
  obtain ⟨hsound, _⟩ := hinitial.reaches hreach
  by_cases hsaPairs : system.Pairs sa.workflowId sa.taskId
  · obtain ⟨workflow, task, hworkflow, htask, hlinked⟩ := hsaPairs
    obtain ⟨scene, rfl, rfl, hsaWorkflow, hsaTask, hshows, _, _⟩ :=
      hsound.scene_pair hworkflow htask hlinked
    by_cases hmlPairs : system.Pairs ml.workflowId ml.taskId
    · obtain ⟨workflow, task, hworkflow, htask, hlinked⟩ := hmlPairs
      obtain ⟨other, rfl, rfl, hmlWorkflow, hmlTask, hother, _, _⟩ :=
        hsound.scene_pair hworkflow htask hlinked
      by_cases hid : scene.workflow.id = other.workflow.id
      · cases hshows.unique hother hid
        exact commute_together hsound hshows hsaWorkflow hsaTask hmlWorkflow hmlTask hsa hthenMl
          hml hthenSa
      · exact commute_apart hsound (hinitial.filed hreach) hshows hother hid hsaWorkflow hsaTask
          hmlWorkflow hmlTask hsa hthenMl hml hthenSa
    · cases ml_unpaired hmlPairs hml
      obtain ⟨m, hmoved⟩ := sa_moved hsound hshows hsaWorkflow hsaTask hsa
      obtain ⟨n, hagain⟩ := sa_moved hsound hshows hsaWorkflow hsaTask hthenSa
      cases ml_unpaired (fun hpairs => hmlPairs (hmoved.pairs hshows hpairs)) hthenMl
      exact hmoved.alike hagain
  · cases sa_unpaired hsaPairs hsa
    by_cases hmlPairs : system.Pairs ml.workflowId ml.taskId
    · obtain ⟨workflow, task, hworkflow, htask, hlinked⟩ := hmlPairs
      obtain ⟨other, rfl, rfl, hmlWorkflow, hmlTask, hother, _, _⟩ :=
        hsound.scene_pair hworkflow htask hlinked
      have hmoved := ml_moved hsound hother hmlWorkflow hmlTask hml
      cases sa_unpaired (fun hpairs => hsaPairs (hmoved.pairs hother hpairs)) hthenSa
      exact (ml_moved hsound hother hmlWorkflow hmlTask hthenMl).alike hmoved
    · cases ml_unpaired hmlPairs hml
      cases ml_unpaired hmlPairs hthenMl
      cases sa_unpaired hsaPairs hthenSa
      exact ⟨fun _ => rfl, fun _ => rfl, rfl, rfl, rfl⟩

/-- A scan that both engines have answered is complete, with the same results in either
order. -/
theorem found_and_seen_commute :
    (bothFound.store.workflows.get? (Uuid.generated 3)).map Workflow.status = some .complete ∧
      bothFound.Alike
        ((smallOrchestrator.process (.sa foundOne)).run quietWorld halfAnswered).2 := by
  refine ⟨by decide +kernel, ?_⟩
  exact answers_commute initial_empty (reaches_compiled .compileSaMl) (runs_quietly _ _)
    (runs_quietly _ _) (runs_quietly _ _) (runs_quietly _ _)

end System

end ScanFlow
