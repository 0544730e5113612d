import ScanFlow.Proofs.Race.Lasting
import ScanFlow.Proofs.Record.Engines
import ScanFlow.Proofs.Record.Requests

/-!
What becomes of a workflow whose analysis has no rules.

A dispatch that finds no active rules asks no engine: it ends the runs that are left with an
exception, and the workflow with them. No snapshot is bound then, so that the task would still be
open for another dispatch. None comes: the workflow has ended, no answer is awaited any more, and
a request would rest on a snapshot. So it stays, whatever arrives and whichever rules are added.
-/

namespace ScanFlow

/-- The workflow has been aborted before its analysis was bound, and its runs have ended with an
exception. -/
structure GivenUp (workflow : Workflow) (task : Task) : Prop where
  aborted : workflow.status = .aborted
  sa : task.sa.status = .exception
  ml : workflow.shape.runsMl = true → task.ml.status = .exception
  snapshot : task.snapshot = none

namespace Task

/-- Giving up ends the runs that have not succeeded. -/
theorem givenUp_sa {task : Task} (h : task.sa.status ≠ .success) :
    task.givenUp.sa.status = .exception := by
  have hsa : task.saGivenUp.sa.status = .exception := by
    unfold saGivenUp
    split
    · rename_i hterminal
      cases hstatus : task.sa.status with
      | exception => rfl
      | success => exact absurd hstatus h
      | pending | running =>
        rw [hstatus] at hterminal
        cases hterminal
    · rfl
  unfold givenUp mlGivenUp
  split
  · exact hsa
  · exact hsa

theorem givenUp_ml {task : Task} (hruns : task.runsMl = true) (h : task.ml.status ≠ .success) :
    task.givenUp.ml.status = .exception := by
  have hsame : task.saGivenUp.ml = task.ml ∧ task.saGivenUp.kind = task.kind := by
    unfold saGivenUp
    split
    · exact ⟨rfl, rfl⟩
    · exact ⟨rfl, rfl⟩
  have hstill : task.saGivenUp.runsMl = true := by rw [runsMl, hsame.2, ← runsMl, hruns]
  unfold givenUp mlGivenUp
  rw [hsame.1, hstill]
  split
  · rfl
  · rename_i hterminal
    cases hstatus : task.ml.status with
    | exception => exact (congrArg MlRun.status hsame.1).trans hstatus
    | success => exact absurd hstatus h
    | pending | running => simp [hstatus, RunStatus.isTerminal] at hterminal

end Task

namespace GivenUp

variable {workflow : Workflow} {task : Task}

/-- Nothing has been merged of a task that has been given up. -/
theorem summary (h : GivenUp workflow task) (hconsistent : task.Consistent) :
    task.summary = .notRun := by
  have hunclaimed : task.mergeClaimed = false := by
    rw [← Bool.not_eq_true]
    intro hclaimed
    have hboth := hconsistent.claimed hclaimed
    simp [Task.bothSucceeded, h.sa] at hboth
  exact (hconsistent.unmerged hunclaimed).1

theorem of_timeless (h : GivenUp workflow.timeless task.timeless) : GivenUp workflow task :=
  ⟨h.aborted, h.sa, h.ml, h.snapshot⟩

/-- Ending a workflow and giving up its runs, none of which has succeeded. -/
theorem of_ended (haborted : workflow.status = .aborted) (hsnapshot : task.snapshot = none)
    (hnot : task.sa.status ≠ .success ∧ task.ml.status ≠ .success)
    (hruns : task.runsMl = workflow.shape.runsMl) : GivenUp workflow task.givenUp where
  aborted := haborted
  sa := Task.givenUp_sa hnot.1
  ml := fun h => Task.givenUp_ml (hruns.trans h) hnot.2
  snapshot := (Scene.givenUp_snapshot task).trans hsnapshot

theorem congr {next : Workflow} {other : Task} (h : GivenUp workflow task)
    (hworkflow : next.timeless = workflow.timeless) (htask : other.record = task.record) :
    GivenUp next other where
  aborted := (congrArg Workflow.status hworkflow :).trans h.aborted
  sa := (congrArg (fun task => task.sa.status) htask :).trans h.sa
  ml := by
    intro hruns
    have hshape : next.shape = workflow.shape := (congrArg Workflow.shape hworkflow :)
    exact (congrArg (fun task => task.ml.status) htask :).trans (h.ml (hshape ▸ hruns))
  snapshot := (congrArg Task.snapshot htask :).trans h.snapshot

/-- A service leaves a workflow that has been given up as it is: it expects no answer. -/
theorem step {o : Orchestrator} {system next : System} {scene after : Scene}
    (h : GivenUp scene.workflow scene.task) (hmatched : Matched scene.workflow scene.task)
    (hstep : scene.Step o system next after) : GivenUp after.workflow after.task := by
  have hkept : ∀ nextNumber, after.timeless = { scene.timeless with nextNumber } →
      GivenUp after.workflow after.task := by
    intro nextNumber hsame
    have hrecord : after.task.record = scene.task.record :=
      (Scene.same_of_timeless hsame).record.trans (Task.record_timeless scene.task)
    exact h.congr (congrArg Scene.workflow hsame :) hrecord
  cases hstep with
  | kept hworkflow hsame => exact h.congr (congrArg Workflow.timeless hworkflow) hsame.record
  | compile hanswered =>
    rcases hanswered.dropped_or_compiling with rfl | hcompiling
    · exact h
    · cases hcompiling.running.symm.trans h.aborted
  | sa answer nextNumber _ _ _ hsame =>
    have hdone : scene.timeless.task.awaitsSa answer.success = false := by
      change (scene.task.runsSa && scene.task.sa.status.canBecome _) = false
      rw [h.sa]
      exact Bool.and_false _
    rw [Scene.saAnswered_of_idle hdone] at hsame
    exact hkept nextNumber hsame
  | ml answer _ _ _ hsame =>
    have hdone : scene.timeless.task.awaitsMl answer.success = false := by
      change (scene.task.runsMl && scene.task.ml.status.canBecome _) = false
      cases hruns : scene.task.runsMl with
      | false => rfl
      | true =>
        rw [h.ml (hmatched.runsMl ▸ hruns)]
        rfl
    rw [Scene.mlAnswered_of_idle hdone] at hsame
    exact hkept scene.nextNumber hsame
  | remerged _ _ _ hboth => simp [Task.bothSucceeded, h.sa] at hboth

end GivenUp

/-! ### The dispatch -/

theorem Workflow.taskKind?_of_analysis {workflow : Workflow}
    (hstage : workflow.nextStage? = some .analysis) :
    ∃ kind, workflow.shape.taskKind? = some kind := by
  unfold nextStage? at hstage
  split at hstage
  · cases hstage
  · revert hstage
    unfold Shape.stageAt?
    cases workflow.shape with
    | compile => rcases workflow.progress with _ | _ <;> nofun
    | compileSa | compileSaMl | sa | ml | saMl => exact fun _ => ⟨_, rfl⟩

namespace Scene

variable {o : Orchestrator} {unruled : Option Uuid → Bool}

/-- A run that has not succeeded gives no verdict of success. -/
theorem verdict?_ne_complete {task : Task}
    (hnot : task.sa.status ≠ .success ∧ task.ml.status ≠ .success) :
    Orchestrator.verdict? task ≠ some .complete := by
  have hafter : ∀ status : RunStatus, status ≠ .success →
      Orchestrator.statusAfter status ≠ .complete := by
    intro status
    cases status <;> decide
  unfold Orchestrator.verdict?
  split
  · exact fun h => hafter _ hnot.1 (Option.some.inj h)
  · exact fun h => hafter _ hnot.2 (Option.some.inj h)
  · rw [if_neg (by simp [Task.bothSucceeded, hnot.1])]
    split
    · decide
    · decide
  · decide

theorem judged_ne_complete {workflow : Workflow} {verdict : Option Workflow.Status}
    (hrunning : workflow.status = .running) (hverdict : verdict ≠ some .complete) :
    (workflow.judged verdict).status ≠ .complete := by
  have hopen : workflow.status ≠ .complete := by
    rw [hrunning]
    nofun
  cases verdict with
  | none => exact hopen
  | some status =>
    change ((workflow.finished? status .origin).getD workflow).status ≠ .complete
    cases hfinished : workflow.finished? status .origin with
    | none => exact hopen
    | some next =>
      rw [Option.getD_some, (Workflow.finished?_eq_some hfinished).2]
      exact fun h => hverdict (congrArg some h)

/-- Without rules, a failure that comes too early gives up the workflow. -/
theorem answered_unruled (scene : Scene) (hearly : scene.workflow.isEarly = true)
    (hunruled : unruled scene.workflow.templateId = true) (hsnapshot : scene.task.snapshot = none)
    (hnot : scene.task.sa.status ≠ .success ∧ scene.task.ml.status ≠ .success)
    (hmatched : Matched scene.workflow scene.task) :
    GivenUp (scene.answered o unruled).workflow (scene.answered o unruled).task := by
  have hgiven : (scene.settled o).workflow.given = scene.workflow.given :=
    (Workflow.judged_given _ _).trans (Workflow.counted_given _)
  have hcourse : (scene.settled o).task.course = scene.task.course := settled_course
  simp only [Task.course, Prod.mk.injEq] at hcourse
  obtain ⟨_, hkind, _, hsame, hsa, hml⟩ := hcourse
  have hrunning : scene.workflow.counted.status = .running := by
    rw [Workflow.counted_status]
    exact Workflow.isRunning_iff.mp (Bool.and_eq_true_iff.mp hearly).1
  have hopen : (scene.settled o).workflow.status ≠ .complete :=
    judged_ne_complete hrunning (verdict?_ne_complete hnot)
  rw [answered, if_pos hearly, givenUp, if_pos]
  · refine .of_ended (Orchestrator.abortedAt_status hopen) (hsame.trans hsnapshot) ?_ ?_
    · rw [hsa, hml]
      exact hnot
    · rw [Workflow.shape_of_given ((Workflow.ended_given _ _).trans hgiven), Task.runsMl, hkind]
      exact hmatched.runsMl
  · rw [Workflow.templateId_of_given hgiven]
    exact hunruled

end Scene

namespace Orchestrator

open Program

variable {o : Orchestrator} {system final : System} {scene : Scene} {kind : Task.Kind}

/-- Nothing has been published, and the workflow that is shown has been given up. -/
def GivesUp (system : System) (id : Uuid) (final : System) : Prop :=
  final.broker = system.broker ∧
    ∃ after : Scene, final.Shows after ∧ after.workflow.id = id ∧
      GivenUp after.workflow after.task

theorem Leads.givesUp {expected : Scene} {id : Uuid} (h : Leads system expected final)
    (hid : expected.workflow.id = id) (hgivenUp : GivenUp expected.workflow expected.task) :
    GivesUp system id final := by
  obtain ⟨after, hafter, hframe, rfl⟩ := h
  exact ⟨congrArg Prod.fst hframe, after, hafter, hid, .of_timeless hgivenUp⟩

theorem dispatchAnalysis_givesUp (hshows : system.Shows scene)
    (hmatched : Matched scene.workflow scene.task) (hsnapshot : scene.task.snapshot = none)
    (hkind : scene.workflow.shape.taskKind? = some kind)
    (hunruled : system.store.unruled scene.workflow.templateId = true) :
    (o.dispatchAnalysis scene.workflow).Through (fun _ => True) system fun outcome final =>
      outcome = .ok .aborted ∧ Leads system
        { scene.timeless with
          workflow := scene.timeless.workflow.ended .aborted
          task := scene.task.timeless.givenUp } final := by
  unfold dispatchAnalysis
  rw [through_bind]
  apply through_task hshows trivial hshows.linked
  unfold Rest
  dsimp only
  rw [if_neg (by simp [hsnapshot]), hkind]
  dsimp only
  rw [through_bind]
  apply captureRules_tells
  · intro _
    exact abortWithoutRules_leads hshows rfl (hmatched.kind.trans hkind)
  · intro e hnone
    rw [hnone] at hunruled
    cases hunruled
  · intro hruled
    cases hruled.symm.trans hunruled

theorem givesUp_of_dispatch (hmatched : Matched scene.workflow scene.task)
    (hrunning : scene.workflow.status = .running) (hunasked : scene.task.Unasked)
    (h : Leads system
      { scene.timeless with
        workflow := scene.timeless.workflow.ended .aborted
        task := scene.task.timeless.givenUp } final) :
    GivesUp system scene.workflow.id final := by
  have hgiven := Workflow.ended_given scene.timeless.workflow .aborted
  refine h.givesUp (Workflow.id_of_given hgiven) (.of_ended ?_ hunasked.snapshot
    hunasked.timeless.not_succeeded ?_)
  · refine abortedAt_status ?_
    change scene.workflow.status ≠ .complete
    rw [hrunning]
    nofun
  · rw [Workflow.shape_of_given hgiven]
    exact hmatched.runsMl

/-- Going on to an analysis without rules. -/
theorem chain_givesUp (hshows : system.Shows scene) (hready : scene.Ready)
    (hunasked : scene.task.Unasked)
    (hunruled : system.store.unruled scene.workflow.templateId = true) :
    (o.chain scene.workflow).Through (fun _ => True) system fun _ final =>
      GivesUp system scene.workflow.id final := by
  obtain ⟨kind, hkind⟩ := Workflow.taskKind?_of_analysis hready.stage
  unfold chain
  rw [if_neg (by simp [Workflow.isRunning, hready.running]), hready.stage]
  dsimp only
  rw [through_bind, through_attempt]
  apply (dispatchAnalysis_givesUp hshows hready.matched hunasked.snapshot hkind hunruled).mono
    fun _ => id
  rintro _ final ⟨rfl, hleads⟩
  exact givesUp_of_dispatch hready.matched hready.running hunasked hleads

/-- Beginning with an analysis without rules. -/
theorem dispatchFirst_givesUp (hshows : system.Shows scene)
    (hmatched : Matched scene.workflow scene.task) (hfresh : Fresh scene.workflow scene.task)
    (hstage : scene.workflow.nextStage? = some .analysis)
    (hunruled : system.store.unruled scene.workflow.templateId = true) :
    (o.dispatchFirst scene.workflow).Through (fun _ => True) system fun _ final =>
      GivesUp system scene.workflow.id final := by
  obtain ⟨kind, hkind⟩ := Workflow.taskKind?_of_analysis hstage
  unfold dispatchFirst
  rw [hstage]
  dsimp only
  rw [through_bind, through_attempt]
  apply (dispatchAnalysis_givesUp hshows hmatched hfresh.snapshot hkind hunruled).mono
    fun _ => id
  rintro _ final ⟨rfl, hleads⟩
  exact givesUp_of_dispatch hmatched hfresh.running hfresh.unasked hleads

theorem unruled_preserves {α : Type} (program : Program α) (rules : Option Uuid → Bool) :
    program.Preserves fun system => system.store.unruled = rules :=
  preserves_of_only (fun call env _ _ hkept => call.preserves_store env
    (fun store => store.unruled = rules)
    (fun operation now store hbefore => (operation.unruled now store).trans hbefore) hkept)
    program.only_any

/-- The compiler succeeds, and there are no rules to go on with. -/
theorem onCompileFinished_givesUp (hshows : system.Shows scene)
    (hmatched : Matched scene.workflow scene.task)
    (hcompiling : Compiling scene.workflow scene.task)
    (hanalysis : scene.workflow.shape.runsAnalysis = true)
    (hunruled : system.store.unruled scene.workflow.templateId = true) {answer : CompileFinished}
    (haccepted : answer.Accepted scene.workflow.id) :
    (o.onCompileFinished answer).Through (fun _ => True) system fun _ final =>
      final.store.unruled = system.store.unruled → GivesUp system scene.workflow.id final := by
  have hstage := nextStage?_of_compiling hmatched.steps hcompiling
  obtain ⟨key, hkey⟩ := haccepted.key
  obtain ⟨artifact, hartifact, _⟩ := Option.map_eq_some_iff.mp hkey
  unfold onCompileFinished
  rw [through_bind]
  apply through_findWorkflow hshows trivial haccepted.workflowId
  unfold Rest
  dsimp only
  rw [if_neg (by simp [Workflow.isRunning, hcompiling.running, hstage]),
    if_neg (by simp [haccepted.success]), hartifact]
  dsimp only
  rw [through_bind]
  apply through_findTask hshows trivial hshows.linked
  refine acceptArtifact_goesOn hshows hmatched hcompiling artifact ?_ ?_
  · intro final after hsteps _ _
    rw [hmatched.steps, two_steps hcompiling.shape hanalysis] at hsteps
    omega
  · intro met reached hmet hbroker hreached hready
    have hgiven := (Scene.akin_of_compiledTo hreached).given
    have hunasked := Scene.unasked_of_compiledTo hcompiling.unasked hreached
    cases hrules : met.store.unruled reached.workflow.templateId with
    | true =>
      apply (chain_givesUp hmet hready hunasked hrules).mono fun _ => id
      rintro _ final ⟨hsame, hafter⟩ _
      exact ⟨hsame.trans hbroker, Workflow.id_of_given hgiven ▸ hafter⟩
    | false =>
      -- No call edits the catalog, so that rules which are met here are there at the end.
      apply (unruled_preserves _ _ met rfl).mono fun _ _ => trivial
      intro _ final hsame hkept
      rw [← hsame, hkept, Workflow.templateId_of_given hgiven, hunruled] at hrules
      cases hrules

end Orchestrator

/-! ### Whole services -/

namespace System

open Orchestrator

variable {o : Orchestrator} {start system next later : System} {scene : Scene} {id : Uuid}

/-- The analysis of the workflow is dispatched by a service. A submission begins with it, if
there is nothing to be compiled. Otherwise it follows the compile stage, which is counted when
the compiler has succeeded, and also when an engine is reported to have failed too early. -/
inductive Dispatches (o : Orchestrator) (system next : System) (id : Uuid) : Prop where
  | first {workflow : Workflow} (submission : Submission)
      {outcome : Except ServiceError Workflow}
      (hruns : (o.start submission).Runs system outcome next)
      (hnew : system.store.workflows.get? id = none)
      (hstored : next.store.workflows.get? id = some workflow)
      (hshape : workflow.shape.runsCompile = false)
  | compiled {workflow : Workflow} {answer : CompileFinished} {outcome : Except ServiceError Unit}
      (hstored : system.store.workflows.get? id = some workflow)
      (hrunning : workflow.status = .running) (hstage : workflow.nextStage? = some .compile)
      (hanalysis : workflow.shape.runsAnalysis = true) (haccepted : answer.Accepted id)
      (hruns : (o.process (.compile answer)).Runs system outcome next)
  | failed {workflow : Workflow} {queue : Queue} {body : Json} {message : Completion}
      {outcome : Except ServiceError Unit}
      (hstored : system.store.workflows.get? id = some workflow)
      (hrunning : workflow.status = .running) (hstage : workflow.nextStage? = some .compile)
      (haccepted : Completion.parse queue body = .ok message)
      (hfailure : message.ReportsFailure workflow)
      (hruns : (o.process message).Runs system outcome next)

theorem Dispatches.service (h : Dispatches o system next id) : Service o system next := by
  cases h with
  | first submission hruns => exact .start submission hruns
  | compiled _ _ _ _ haccepted hruns =>
    obtain ⟨body, hparsed⟩ := haccepted.parsed
    exact .process hparsed hruns
  | failed _ _ _ haccepted _ hruns => exact .process haccepted hruns

/-- An engine fails too early, and there are no rules to go on with. -/
theorem failure_givesUp (hsound : system.Sound) (hshows : system.Shows scene)
    (hcompiling : Compiling scene.workflow scene.task)
    (hunruled : system.store.unruled scene.workflow.templateId = true) {message : Completion}
    (hfailure : message.ReportsFailure scene.workflow) {outcome : Except ServiceError Unit}
    (hruns : (o.process message).Runs system outcome next) :
    GivesUp system scene.workflow.id next := by
  obtain ⟨hmatched, _⟩ := hsound.shown hshows
  obtain ⟨hearly, task, _, hended, hmoved⟩ :=
    failure_moved hsound hshows hcompiling hfailure hruns
  have hexception : RunStatus.exception ≠ .success := by decide
  obtain ⟨hsa, hml⟩ := hcompiling.unasked.not_succeeded
  refine hmoved.leads.givesUp (Workflow.id_of_given hmoved.workflow) ?_
  rcases hended with rfl | rfl
  · exact Scene.answered_unruled _ hearly hunruled hcompiling.snapshot ⟨hexception, hml⟩
      ⟨hmatched.steps, hmatched.kind⟩
  · exact Scene.answered_unruled _ hearly hunruled hcompiling.snapshot ⟨hsa, hexception⟩
      ⟨hmatched.steps, hmatched.kind⟩

/-- A submission begins with an analysis, and there are no rules. -/
theorem submission_givesUp (hkeyed : system.store.Keyed) {submission : Submission}
    {outcome : Except ServiceError Workflow} {workflow : Workflow}
    (hruns : (o.start submission).Runs system outcome next)
    (hnew : system.store.workflows.get? id = none)
    (hstored : next.store.workflows.get? id = some workflow)
    (hshape : workflow.shape.runsCompile = false)
    (hunruled : system.store.unruled workflow.templateId = true) : GivesUp system id next := by
  cases start_submits hkeyed hruns with
  | refused hreads =>
    rw [hreads.store, hnew] at hstored
    cases hstored
  | @created before added _ _ _ hreads hcreated hdispatch =>
    obtain ⟨scene, rfl, rfl, hshows, hspares⟩ := hcreated.exists_scene
    obtain ⟨_, _, _, _, _, hrest, _⟩ :=
      (dispatchFirst_alone scene hcreated.linked hcreated.matched hcreated.fresh).runs hshows
        hdispatch
    obtain ⟨after, hafter, hbegun, _⟩ :=
      (dispatchFirst_launches hshows hcreated.matched hcreated.fresh rfl).runs hdispatch
    -- No other workflow is new.
    have hown : id = scene.workflow.id := by
      refine Decidable.byContradiction fun hother => ?_
      rw [(hspares.trans hrest).workflows id hother, hreads.store, hnew] at hstored
      cases hstored
    have hgiven : workflow.given = scene.workflow.given := by
      have hakin := Scene.Begun.akin hbegun
      have hid : after.workflow.id = id := (Workflow.id_of_given hakin.given).trans hown.symm
      have hsame := hafter.workflow
      rw [hid, hstored, Option.some.injEq] at hsame
      rw [hsame]
      exact hakin.given
    have hbroker : added.broker = system.broker := by
      rw [hcreated.added]
      exact hreads.broker
    have hrules : added.store.unruled = system.store.unruled := by
      rw [hcreated.added, ← hreads.store]
      rfl
    have hstage : scene.workflow.nextStage? = some .analysis := by
      rw [nextStage?_of_fresh hcreated.matched hcreated.fresh]
      rcases (first_stage scene.workflow.shape).2 with ⟨_, hcompile⟩ | ⟨hstage, _⟩
      · rw [← Workflow.shape_of_given hgiven, hshape] at hcompile
        cases hcompile
      · exact hstage
    rw [← hrules, Workflow.templateId_of_given hgiven] at hunruled
    obtain ⟨hsame, hend⟩ := (dispatchFirst_givesUp hshows hcreated.matched hcreated.fresh hstage
      hunruled).runs hdispatch
    exact ⟨hsame.trans hbroker, hown ▸ hend⟩

/-- No service changes what a workflow has been given. -/
theorem Unsubmitted.given_kept (hstart : start.Unsubmitted) (hreach : Reaches o start system)
    (hservice : Service o system next) {workflow changed : Workflow}
    (hbefore : system.store.workflows.get? id = some workflow)
    (hafter : next.store.workflows.get? id = some changed) : changed.given = workflow.given := by
  obtain ⟨hsound, _⟩ := hstart.toInitial.reaches hreach
  obtain ⟨scene, rfl, hshows, _⟩ := hsound.scene hbefore
  obtain ⟨after, hshown, hgiven, _⟩ := hstart.step hreach hservice hshows
  have hid : after.workflow.id = id :=
    (Workflow.id_of_given hgiven).trans (hsound.keyed.workflows _ _ hbefore)
  have hsame := hshown.workflow
  rw [hid, hafter, Option.some.injEq] at hsame
  rw [hsame]
  exact hgiven

/-- A workflow whose analysis is dispatched has a template. -/
theorem Dispatches.template (hdispatches : Dispatches o system next id)
    (hstart : start.Unsubmitted) (hreach : Reaches o start system) {workflow : Workflow}
    (hstored : next.store.workflows.get? id = some workflow) : workflow.templateId.isSome := by
  have hservice := hdispatches.service
  have hnext := Reaches.step hreach hservice
  obtain ⟨hsound, _⟩ := hstart.toInitial.reaches hnext
  obtain ⟨task, htask, _⟩ := hsound.phase _ _ hstored
  refine (hstart.toInitial.regular hnext _ _ _ hstored htask).template ?_
  have hkept : ∀ before : Workflow, system.store.workflows.get? id = some before →
      workflow.shape = before.shape := fun before hbefore =>
    Workflow.shape_of_given (hstart.given_kept hreach hservice hbefore hstored)
  cases hdispatches with
  | first _ _ _ hagain hshape =>
    rw [hstored, Option.some.injEq] at hagain
    rw [← hagain] at hshape
    revert hshape
    cases workflow.shape <;> decide
  | compiled hbefore _ _ hanalysis =>
    rw [hkept _ hbefore]
    revert hanalysis
    generalize (_ : Workflow).shape = shape
    cases shape <;> decide
  | @failed before _ _ message _ hbefore _ _ _ hfailure =>
    rw [hkept _ hbefore, Shape.requiresRules, Bool.or_eq_true]
    cases message with
    | compile answer => exact hfailure.elim
    | sa answer => exact Or.inl hfailure.2.2.2
    | ml answer => exact Or.inr hfailure.2.2.2

/-- Without rules, a dispatch publishes nothing and gives up the workflow. -/
theorem Dispatches.givesUp (hdispatches : Dispatches o system next id)
    (hstart : start.Unsubmitted) (hreach : Reaches o start system) {workflow : Workflow}
    (hstored : next.store.workflows.get? id = some workflow)
    (hunruled : system.store.unruled workflow.templateId = true) : GivesUp system id next := by
  have hservice := hdispatches.service
  obtain ⟨hsound, _⟩ := hstart.toInitial.reaches hreach
  cases hdispatches with
  | first submission hruns hnew hagain hshape =>
    rw [hstored, Option.some.injEq] at hagain
    exact submission_givesUp hsound.keyed hruns hnew hstored (hagain ▸ hshape) hunruled
  | compiled hbefore hrunning hstage hanalysis haccepted hruns =>
    rw [Workflow.templateId_of_given (hstart.given_kept hreach hservice hbefore hstored)]
      at hunruled
    obtain ⟨scene, rfl, hshows, hmatched, hphase⟩ := hsound.scene hbefore
    obtain rfl := hsound.keyed.workflows _ _ hbefore
    have hcompiling := compiling_of_stage hmatched hphase hrunning hstage
    have hkept := hruns.preserves_store (fun store => store.unruled = system.store.unruled)
      (fun operation now store hsame => (operation.unruled now store).trans hsame) rfl
    exact (onCompileFinished_givesUp hshows hmatched hcompiling hanalysis hunruled
      haccepted).runs hruns hkept
  | failed hbefore hrunning hstage _ hfailure hruns =>
    rw [Workflow.templateId_of_given (hstart.given_kept hreach hservice hbefore hstored)]
      at hunruled
    obtain ⟨scene, rfl, hshows, hmatched, hphase⟩ := hsound.scene hbefore
    obtain rfl := hsound.keyed.workflows _ _ hbefore
    exact failure_givesUp hsound hshows (compiling_of_stage hmatched hphase hrunning hstage)
      hunruled hfailure hruns

/-! ### Afterwards -/

/-- The workflow has been given up, and no engine is asked about it any more. -/
theorem given_up_stays (hstart : start.Unsubmitted) (hreach : Reaches o start next)
    (hlater : Reaches o next later) (hshows : next.Shows scene)
    (hgivenUp : GivenUp scene.workflow scene.task) :
    (∃ after, later.Shows after ∧ after.workflow.id = scene.workflow.id ∧
      GivenUp after.workflow after.task) ∧
        next.Asks later fun request => request.workflowId ≠ scene.workflow.id := by
  induction hlater with
  | refl => exact ⟨⟨scene, hshows, rfl, hgivenUp⟩, .of_broker rfl _⟩
  | step hbefore hservice ih =>
    obtain ⟨⟨met, hmet, hid, hstill⟩, hasks⟩ := ih
    have hreached := hreach.trans hbefore
    obtain ⟨hsound, _⟩ := hstart.toInitial.reaches hreached
    obtain ⟨after, hafter, hgiven, hstep⟩ := hstart.step hreached hservice hmet
    have hnext := hstill.step (hsound.shown hmet).1 hstep
    have hsame := Workflow.id_of_given hgiven
    refine ⟨⟨after, hafter, hsame.trans hid, hnext⟩, hasks.trans ?_⟩
    refine (asks_of_service hsound.keyed hservice).mono fun request hdue => ?_
    rw [← hid]
    refine hdue.elsewhere ?_ (hsame ▸ hafter.workflow) (hafter.linked ▸ hafter.task) hnext.snapshot
    rw [hmet.workflow]
    rfl

/-- Where the analysis of a workflow is dispatched without active rules, nothing is published, and
the workflow has been given up. So it stays, and its results are never merged, whatever services
and edits of the catalog follow, and the engines are never asked about it. -/
theorem unruled_dispatch_gives_up_for_good (hstart : start.Unsubmitted)
    (hreach : Reaches o start system) (hdispatches : Dispatches o system next id)
    {workflow : Workflow} (hstored : next.store.workflows.get? id = some workflow)
    (hunruled : ∀ templateId, workflow.templateId = some templateId →
      system.store.template? templateId = none ∨ system.store.activeRules templateId = []) :
    next.broker = system.broker ∧
      ∀ later, Reaches o next later →
        (∃ workflow task, later.store.workflows.get? id = some workflow ∧
          later.store.tasks.get? workflow.taskId = some task ∧ GivenUp workflow task ∧
            task.summary = .notRun) ∧
          next.Asks later fun request => request.workflowId ≠ id := by
  obtain ⟨templateId, htemplate⟩ :=
    Option.isSome_iff_exists.mp (hdispatches.template hstart hreach hstored)
  have hnone : system.store.activeRules templateId = [] := by
    rcases hunruled templateId htemplate with hmissing | hempty
    · rw [Store.activeRules, hmissing]
    · exact hempty
  have htells : system.store.unruled workflow.templateId = true := by
    rw [htemplate, Store.unruled, Option.any_some, hnone]
    rfl
  obtain ⟨hsame, scene, hshows, rfl, hgivenUp⟩ :=
    hdispatches.givesUp hstart hreach hstored htells
  have hnext := Reaches.step hreach hdispatches.service
  refine ⟨hsame, fun later hlater => ?_⟩
  obtain ⟨⟨after, hafter, hid, hstill⟩, hasks⟩ :=
    given_up_stays hstart hnext hlater hshows hgivenUp
  refine ⟨⟨after.workflow, after.task, hid ▸ hafter.workflow, hafter.linked ▸ hafter.task, hstill,
    ?_⟩, hasks⟩
  exact hstill.summary ((hstart.inOrder (hnext.trans hlater)).scenes after hafter).1.consistent

def unruledInstalled : System :=
  { registered with store := registered.store.putTemplate onlyTemplate }

def unruledSubmitted : System :=
  ((smallOrchestrator.start ⟨Uuid.generated 1, some .compileSaMl, "manual", none, none⟩).run
    quietWorld unruledInstalled).2

def unruledCompiled : System :=
  ((smallOrchestrator.process (.compile (compiledAs "shop.jar"))).run quietWorld
    unruledSubmitted).2

/-- The rule is installed after all, and the answer of the compiler is repeated. -/
def ruledTooLate : System :=
  ((smallOrchestrator.process (.compile (compiledAs "shop.jar"))).run quietWorld
    { unruledCompiled with store := unruledCompiled.store.putRule onlyRule }).2

theorem reaches_unruledSubmitted : Reaches smallOrchestrator .empty unruledSubmitted :=
  .step (.step (.step .refl (.registerCode _ (runs_quietly _ _))) (.putTemplate onlyTemplate))
    (.start _ (runs_quietly _ _))

/-- A rule that comes after the scan has been given up does not revive it. -/
theorem rule_comes_too_late :
    unruledCompiled.broker = unruledSubmitted.broker ∧
      (∃ workflow task, ruledTooLate.store.workflows.get? (Uuid.generated 3) = some workflow ∧
        ruledTooLate.store.tasks.get? workflow.taskId = some task ∧ GivenUp workflow task ∧
          task.summary = .notRun) ∧
        unruledCompiled.Asks ruledTooLate fun request => request.workflowId ≠ Uuid.generated 3 := by
  have hbefore : (unruledSubmitted.store.workflows.get? (Uuid.generated 3)).map
      (fun workflow => (workflow.status, workflow.nextStage?, workflow.shape)) =
        some (.running, some .compile, .compileSaMl) := by
    decide +kernel
  have hafter : (unruledCompiled.store.workflows.get? (Uuid.generated 3)).map
      Workflow.templateId = some (some ⟨2⟩) := by
    decide +kernel
  have hempty : unruledSubmitted.store.activeRules ⟨2⟩ = [] := by
    decide +kernel
  obtain ⟨workflow, hworkflow, hsame⟩ := Option.map_eq_some_iff.mp hbefore
  simp only [Prod.mk.injEq] at hsame
  obtain ⟨hrunning, hstage, hshape⟩ := hsame
  obtain ⟨changed, hchanged, htemplate⟩ := Option.map_eq_some_iff.mp hafter
  have hdispatches : Dispatches smallOrchestrator unruledSubmitted unruledCompiled
      (Uuid.generated 3) :=
    .compiled hworkflow hrunning hstage (hshape ▸ rfl) ⟨rfl, rfl, _, accepts_compiledAs⟩
      (runs_quietly _ _)
  obtain ⟨hbroker, hforever⟩ := unruled_dispatch_gives_up_for_good unsubmitted_empty
    reaches_unruledSubmitted hdispatches hchanged fun templateId hnamed => by
      rw [htemplate, Option.some.injEq] at hnamed
      exact Or.inr (hnamed ▸ hempty)
  exact ⟨hbroker, hforever _ (.step (.step .refl (.putRule onlyRule))
    (.process accepts_compiledAs (runs_quietly _ _)))⟩

end System

end ScanFlow
