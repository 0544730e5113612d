import ScanFlow.Proofs.Record.Reached

/-!
When an engine is at work.

The run of an engine is started by the dispatch of the analysis, and it ends with the answer of
that engine. Nothing else that a service does starts it or ends it, and while it lasts, no answer
of the other engine ends the workflow.
-/

namespace ScanFlow

inductive Engine where
  | sa
  | ml

namespace Engine

variable {engine : Engine} {task next : Task}

def status (engine : Engine) (task : Task) : RunStatus :=
  match engine with
  | sa => task.sa.status
  | ml => task.ml.status

def runs (engine : Engine) (shape : Shape) : Bool :=
  match engine with
  | sa => shape.runsSa
  | ml => shape.runsMl

def Answers (engine : Engine) (workflow : Workflow) : Completion → Prop
  | .compile _ => False
  | .sa answer => engine = sa ∧ answer.workflowId = workflow.id ∧ answer.taskId = workflow.taskId
  | .ml answer => engine = ml ∧ answer.workflowId = workflow.id ∧ answer.taskId = workflow.taskId

def works (engine : Engine) (task : Task) : Bool :=
  match engine with
  | sa => task.awaitsSa true
  | ml => task.awaitsMl true

@[simp] theorem works_sa (task : Task) : sa.works task = task.awaitsSa true := rfl

@[simp] theorem works_ml (task : Task) : ml.works task = task.awaitsMl true := rfl

theorem canBecome_success_iff {status : RunStatus} :
    status.canBecome (.ofSuccess true) = true ↔ status = .running := by
  cases status <;> simp [RunStatus.canBecome, RunStatus.ofSuccess]

theorem ofSuccess_ne_running (succeeded : Bool) : RunStatus.ofSuccess succeeded ≠ .running := by
  cases succeeded with
  | true | false => nofun

theorem works_iff (h : task.Consistent) :
    engine.works task = true ↔ engine.status task = .running := by
  cases engine with
  | sa =>
    refine ⟨fun hworks => canBecome_success_iff.mp (Bool.and_eq_true_iff.mp hworks).2, ?_⟩
    intro hrunning
    exact Bool.and_eq_true_iff.mpr
      ⟨(h.sa.begun (Or.inl hrunning)).2.2, canBecome_success_iff.mpr hrunning⟩
  | ml =>
    refine ⟨fun hworks => canBecome_success_iff.mp (Bool.and_eq_true_iff.mp hworks).2, ?_⟩
    intro hrunning
    exact Bool.and_eq_true_iff.mpr
      ⟨(h.ml.begun (Or.inl hrunning)).2.2, canBecome_success_iff.mpr hrunning⟩

theorem works_timeless (engine : Engine) (task : Task) :
    engine.works task.timeless = engine.works task := by
  cases engine with
  | sa | ml => rfl

theorem works_of_timeless (h : next.timeless = task) : engine.works next = engine.works task := by
  rw [← h, works_timeless]

theorem works_of_record (hsame : next.record = task.record) :
    engine.works next = engine.works task := by
  cases engine with
  | sa => exact (congrArg (fun record : Task => record.awaitsSa true) hsame :)
  | ml => exact (congrArg (fun record : Task => record.awaitsMl true) hsame :)

theorem not_works_of_unasked (h : task.Unasked) : engine.works task = false := by
  cases engine with
  | sa => simp [works, Task.awaitsSa, h.sa, RunStatus.canBecome, RunStatus.ofSuccess]
  | ml => simp [works, Task.awaitsMl, h.ml, RunStatus.canBecome, RunStatus.ofSuccess]

theorem not_works_of_both (h : task.bothSucceeded = true) : engine.works task = false := by
  obtain ⟨hsa, hml⟩ := Orchestrator.bothSucceeded_iff.mp h
  cases engine with
  | sa => simp [works, Task.awaitsSa, hsa, RunStatus.canBecome]
  | ml => simp [works, Task.awaitsMl, hml, RunStatus.canBecome]

theorem runs_of_works {workflow : Workflow} (engine : Engine) (hmatched : Matched workflow task)
    (hworks : engine.works task = true) : engine.runs workflow.shape = true := by
  cases engine with
  | sa => exact hmatched.runsSa.symm.trans (Bool.and_eq_true_iff.mp hworks).1
  | ml => exact hmatched.runsMl.symm.trans (Bool.and_eq_true_iff.mp hworks).1

/-- Dispatching the analysis sets the engines of the shape to work. -/
theorem works_begun {shape : Shape} {kind : Task.Kind} (hkind : shape.taskKind? = some kind)
    (hruns : engine.runs shape = true) (task : Task) (snapshot : TemplateSnapshot) :
    engine.works (task.begun kind snapshot) = true := by
  cases engine with
  | sa =>
    have hincludes := (Shape.taskKind?_includesSa shape).trans hruns
    rw [hkind, Option.any_some] at hincludes
    simp [works, Task.awaitsSa, Task.runsSa, Task.begun, hincludes, SaRun.begun,
      canBecome_success_iff]
  | ml =>
    have hincludes := (Shape.taskKind?_includesMl shape).trans hruns
    rw [hkind, Option.any_some] at hincludes
    simp [works, Task.awaitsMl, Task.runsMl, Task.begun, hincludes, MlRun.begun,
      canBecome_success_iff]

end Engine

theorem Task.awaitsSa_any {task : Task} (h : task.awaitsSa true = true) (succeeded : Bool) :
    task.awaitsSa succeeded = true := by
  obtain ⟨hruns, hmay⟩ := Bool.and_eq_true_iff.mp h
  rw [awaitsSa, hruns, Engine.canBecome_success_iff.mp hmay]
  cases succeeded <;> rfl

theorem Task.awaitsMl_any {task : Task} (h : task.awaitsMl true = true) (succeeded : Bool) :
    task.awaitsMl succeeded = true := by
  obtain ⟨hruns, hmay⟩ := Bool.and_eq_true_iff.mp h
  rw [awaitsMl, hruns, Engine.canBecome_success_iff.mp hmay]
  cases succeeded <;> rfl

theorem Workflow.counted_status (workflow : Workflow) :
    workflow.counted.status = workflow.status := by
  apply Store.Operation.getD_keeps Workflow.status
  intro next hnext
  obtain ⟨_, _, rfl⟩ := Workflow.advanced?_eq_some hnext
  rfl

/-- A workflow with a dispatched analysis has no further stage to be dispatched. -/
theorem Analysing.not_early {workflow : Workflow} {task : Task} (h : Analysing workflow task) :
    workflow.isEarly = false := by
  have hprogress := h.progress
  unfold Workflow.isEarly
  rw [Bool.and_eq_false_iff, decide_eq_false_iff_not]
  refine Or.inr ?_
  split at hprogress
  · omega
  · omega

namespace Scene

variable {o : Orchestrator} {unruled : Option Uuid → Bool} {scene : Scene}

/-! ### Answers -/

/-- After an answer of the static analysis, the static analysis is not at work any more. -/
theorem saAnswered_done (o : Orchestrator) (unruled : Option Uuid → Bool) (scene : Scene)
    (answer : SaFinished) : (scene.saAnswered o unruled answer).task.awaitsSa true = false := by
  rw [← Bool.not_eq_true]
  intro hworks
  unfold saAnswered at hworks
  split at hworks
  · have hended := (Bool.and_eq_true_iff.mp (awaitsSa_of_answered hworks)).2
    exact Engine.ofSuccess_ne_running answer.success (Engine.canBecome_success_iff.mp hended)
  · rename_i hidle
    exact hidle (Task.awaitsSa_any hworks answer.success)

theorem mlAnswered_done (o : Orchestrator) (unruled : Option Uuid → Bool) (scene : Scene)
    (answer : MlFinished) : (scene.mlAnswered o unruled answer).task.awaitsMl true = false := by
  rw [← Bool.not_eq_true]
  intro hworks
  unfold mlAnswered at hworks
  split at hworks
  · have hended := (Bool.and_eq_true_iff.mp (awaitsMl_of_answered hworks)).2
    exact Engine.ofSuccess_ne_running answer.success (Engine.canBecome_success_iff.mp hended)
  · rename_i hidle
    exact hidle (Task.awaitsMl_any hworks answer.success)

theorem awaitsMl_of_saAnswered {answer : SaFinished}
    (h : (scene.saAnswered o unruled answer).task.awaitsMl true = true) :
    scene.task.awaitsMl true = true := by
  unfold saAnswered at h
  split at h
  · have hended := awaitsMl_of_answered h
    rwa [saEnded_awaitsMl] at hended
  · exact h

theorem awaitsSa_of_mlAnswered {answer : MlFinished}
    (h : (scene.mlAnswered o unruled answer).task.awaitsSa true = true) :
    scene.task.awaitsSa true = true := by
  unfold mlAnswered at h
  split at h
  · have hended := awaitsSa_of_answered h
    rwa [mlEnded_awaitsSa] at hended
  · exact h

/-- No answer sets an engine to work. -/
theorem works_of_saAnswered {engine : Engine} {answer : SaFinished}
    (h : engine.works (scene.saAnswered o unruled answer).task = true) :
    engine.works scene.task = true := by
  cases engine with
  | sa =>
    rw [Engine.works_sa, saAnswered_done] at h
    cases h
  | ml => exact awaitsMl_of_saAnswered h

theorem works_of_mlAnswered {engine : Engine} {answer : MlFinished}
    (h : engine.works (scene.mlAnswered o unruled answer).task = true) :
    engine.works scene.task = true := by
  cases engine with
  | sa => exact awaitsSa_of_mlAnswered h
  | ml =>
    rw [Engine.works_ml, mlAnswered_done] at h
    cases h

/-- While another run is at work, an answer changes neither that run nor the status of a workflow
whose analysis has been dispatched. -/
theorem answered_meanwhile (scene : Scene) (hkind : scene.task.kind = some .saMl)
    (hopen : scene.task.bothTerminal = false)
    (hstatus : scene.workflow.status = .aborted ∨ scene.workflow.isEarly = false) :
    (scene.answered o unruled).task = scene.task ∧
      (scene.answered o unruled).workflow.status = scene.workflow.status := by
  rcases hstatus with haborted | hlate
  · rw [answered_aborted scene haborted (not_both_of_open hopen)]
    exact ⟨rfl, rfl⟩
  · rw [answered_half hlate hkind hopen]
    exact ⟨rfl, scene.workflow.counted_status⟩

theorem saAnswered_meanwhile (o : Orchestrator) (unruled : Option Uuid → Bool) (scene : Scene)
    (answer : SaFinished) (hworks : scene.task.awaitsMl true = true)
    (hstatus : scene.workflow.status = .aborted ∨ scene.workflow.isEarly = false) :
    (scene.saAnswered o unruled answer).task.awaitsMl true = true ∧
      (scene.saAnswered o unruled answer).workflow.status = scene.workflow.status := by
  unfold saAnswered
  split
  · rename_i hawaits
    have hkind := Task.kind_of_both (Bool.and_eq_true_iff.mp hawaits).1
      (Bool.and_eq_true_iff.mp hworks).1
    have hopen : (scene.saEnded answer).task.bothTerminal = false := by
      rw [Task.bothTerminal, Bool.and_eq_false_iff]
      exact Or.inr (RunStatus.open_of_canBecome (Bool.and_eq_true_iff.mp hworks).2)
    have hmet : (scene.saEnded answer).workflow.status = .aborted ∨
        (scene.saEnded answer).workflow.isEarly = false := hstatus
    obtain ⟨htask, hsame⟩ := answered_meanwhile (scene.saEnded answer) hkind hopen hmet
    rw [htask, hsame]
    exact ⟨hworks, rfl⟩
  · exact ⟨hworks, rfl⟩

theorem mlAnswered_meanwhile (o : Orchestrator) (unruled : Option Uuid → Bool) (scene : Scene)
    (answer : MlFinished) (hworks : scene.task.awaitsSa true = true)
    (hstatus : scene.workflow.status = .aborted ∨ scene.workflow.isEarly = false) :
    (scene.mlAnswered o unruled answer).task.awaitsSa true = true ∧
      (scene.mlAnswered o unruled answer).workflow.status = scene.workflow.status := by
  unfold mlAnswered
  split
  · rename_i hawaits
    have hkind := Task.kind_of_both (Bool.and_eq_true_iff.mp hworks).1
      (Bool.and_eq_true_iff.mp hawaits).1
    have hopen : (scene.mlEnded answer).task.bothTerminal = false := by
      rw [Task.bothTerminal, Bool.and_eq_false_iff]
      exact Or.inl (RunStatus.open_of_canBecome (Bool.and_eq_true_iff.mp hworks).2)
    have hmet : (scene.mlEnded answer).workflow.status = .aborted ∨
        (scene.mlEnded answer).workflow.isEarly = false := hstatus
    obtain ⟨htask, hsame⟩ := answered_meanwhile (scene.mlEnded answer) hkind hopen hmet
    rw [htask, hsame]
    exact ⟨hworks, rfl⟩
  · exact ⟨hworks, rfl⟩

theorem givenUp_snapshot (task : Task) : task.givenUp.snapshot = task.snapshot := by
  have hsa : task.saGivenUp.snapshot = task.snapshot := by
    unfold Task.saGivenUp
    split
    · rfl
    · rfl
  unfold Task.givenUp Task.mlGivenUp
  split
  · exact hsa
  · exact hsa

/-- No answer binds rules. -/
theorem answered_snapshot (scene : Scene) :
    (scene.answered o unruled).task.snapshot = scene.task.snapshot := by
  have hcourse : (scene.settled o).task.course = scene.task.course := settled_course
  simp only [Task.course, Prod.mk.injEq] at hcourse
  unfold answered
  split
  · unfold givenUp
    dsimp only
    split
    · rw [givenUp_snapshot, hcourse.2.2.2.1]
    · exact hcourse.2.2.2.1
  · exact hcourse.2.2.2.1

theorem saAnswered_snapshot (o : Orchestrator) (unruled : Option Uuid → Bool) (scene : Scene)
    (answer : SaFinished) :
    (scene.saAnswered o unruled answer).task.snapshot = scene.task.snapshot := by
  unfold saAnswered
  split
  · exact answered_snapshot (scene.saEnded answer)
  · rfl

theorem mlAnswered_snapshot (o : Orchestrator) (unruled : Option Uuid → Bool) (scene : Scene)
    (answer : MlFinished) :
    (scene.mlAnswered o unruled answer).task.snapshot = scene.task.snapshot := by
  unfold mlAnswered
  split
  · exact answered_snapshot (scene.mlEnded answer)
  · rfl

/-! ### Services -/

variable {engine : Engine} {system next : System} {after : Scene}

/-- An engine is at work after the analysis has been dispatched only. -/
theorem awaits_of_works (hmatched : Matched scene.workflow scene.task)
    (hphase : Phase scene.workflow scene.task) (hworks : engine.works scene.task = true) :
    scene.workflow.status = .aborted ∨ scene.workflow.isEarly = false := by
  cases hphase with
  | compiling h =>
    rw [Engine.not_works_of_unasked h.unasked] at hworks
    cases hworks
  | analysing h => exact Or.inr h.not_early
  | aborted h => exact Or.inl h
  | completed h =>
    cases engine with
    | sa =>
      obtain ⟨hruns, hmay⟩ := Bool.and_eq_true_iff.mp hworks
      rw [h.succeeded.sa (hmatched.runsSa ▸ hruns)] at hmay
      cases hmay
    | ml =>
      obtain ⟨hruns, hmay⟩ := Bool.and_eq_true_iff.mp hworks
      rw [h.succeeded.ml (hmatched.runsMl ▸ hruns)] at hmay
      cases hmay

/-- An engine that is at work stays at work until it answers, and its workflow keeps its status. -/
theorem Step.works_on (h : scene.Step o system next after)
    (hlinked : scene.workflow.taskId = scene.task.id)
    (hmatched : Matched scene.workflow scene.task) (hphase : Phase scene.workflow scene.task)
    (hworks : engine.works scene.task = true)
    (hunanswered : ∀ message, engine.Answers scene.workflow message →
      ¬ message.Processed o system next) :
    engine.works after.task = true ∧ after.workflow.status = scene.workflow.status := by
  have hstatus := awaits_of_works hmatched hphase hworks
  cases h with
  | kept hworkflow hsame =>
    rw [Engine.works_of_record hsame.record, hworkflow]
    exact ⟨hworks, rfl⟩
  | compile h =>
    rcases h.dropped_or_compiling with rfl | hcompiling
    · exact ⟨hworks, rfl⟩
    · rw [Engine.not_works_of_unasked hcompiling.unasked] at hworks
      cases hworks
  | sa answer nextNumber hprocessed hworkflow htask h =>
    cases engine with
    | sa =>
      have hanswers : Engine.sa.Answers scene.workflow (.sa answer) :=
        ⟨rfl, hworkflow, htask.trans hlinked.symm⟩
      exact absurd hprocessed (hunanswered _ hanswers)
    | ml =>
      obtain ⟨hstill, hsame⟩ :=
        saAnswered_meanwhile o system.store.unruled scene.timeless answer hworks hstatus
      exact ⟨(congrArg (fun scene : Scene => scene.task.awaitsMl true) h :).trans hstill,
        (congrArg (fun scene : Scene => scene.workflow.status) h :).trans hsame⟩
  | ml answer hprocessed hworkflow htask h =>
    cases engine with
    | sa =>
      obtain ⟨hstill, hsame⟩ :=
        mlAnswered_meanwhile o system.store.unruled scene.timeless answer hworks hstatus
      exact ⟨(congrArg (fun scene : Scene => scene.task.awaitsSa true) h :).trans hstill,
        (congrArg (fun scene : Scene => scene.workflow.status) h :).trans hsame⟩
    | ml =>
      have hanswers : Engine.ml.Answers scene.workflow (.ml answer) :=
        ⟨rfl, hworkflow, htask.trans hlinked.symm⟩
      exact absurd hprocessed (hunanswered _ hanswers)
  | remerged records moment now hboth _ h =>
    rw [Engine.not_works_of_both hboth] at hworks
    cases hworks

/-- Only a dispatch of the analysis binds rules and sets engines to work. -/
theorem Step.launched_or_idle (h : scene.Step o system next after) :
    (∃ mid : Scene, mid.Launched system next after ∧ mid.task.Unasked ∧
      mid.workflow.status = .running ∧ scene.task.Unasked) ∨
        after.task.snapshot = scene.task.snapshot ∧
          ∀ engine : Engine, engine.works after.task = true → engine.works scene.task = true := by
  cases h with
  | kept _ hsame =>
    refine Or.inr ⟨Task.snapshot_of_record hsame.record, fun engine hworks => ?_⟩
    rw [← Engine.works_of_record hsame.record]
    exact hworks
  | compile h =>
    cases h with
    | dropped h => exact Or.inr ⟨by rw [h], fun engine hworks => h ▸ hworks⟩
    | failed _ h =>
      have htask : after.task.timeless = scene.task.timeless := (congrArg Scene.task h :)
      refine Or.inr ⟨(congrArg Task.snapshot htask :), fun engine hworks => ?_⟩
      rw [Engine.works_of_timeless htask, Engine.works_timeless] at hworks
      exact hworks
    | completed artifact hcompiling h =>
      have hsnapshot : after.task.snapshot = scene.task.snapshot :=
        (congrArg (fun scene : Scene => scene.task.snapshot) h :)
      have hunasked : after.task.Unasked :=
        { snapshot := hsnapshot.trans hcompiling.snapshot
          sa := (congrArg (fun scene : Scene => scene.task.sa.status) h :).trans hcompiling.sa
          ml := (congrArg (fun scene : Scene => scene.task.ml.status) h :).trans hcompiling.ml }
      refine Or.inr ⟨hsnapshot, fun engine hworks => ?_⟩
      rw [Engine.not_works_of_unasked hunasked] at hworks
      cases hworks
    | launched artifact mid hcompiling hmid hlaunched =>
      refine Or.inl ⟨mid, hlaunched, unasked_of_compiledTo hcompiling.unasked hmid, ?_,
        hcompiling.unasked⟩
      have hstatus : mid.workflow.status = scene.timeless.workflow.counted.status :=
        (congrArg (fun scene : Scene => scene.workflow.status) hmid :)
      rw [hstatus, Workflow.counted_status]
      exact hcompiling.running
  | sa answer nextNumber hprocessed _ _ h =>
    have htask : after.task.timeless =
      (scene.timeless.saAnswered o system.store.unruled answer).task := (congrArg Scene.task h :)
    refine Or.inr ⟨?_, fun engine hworks => ?_⟩
    · exact (congrArg Task.snapshot htask :).trans
        (saAnswered_snapshot o system.store.unruled scene.timeless answer)
    · rw [Engine.works_of_timeless htask] at hworks
      have hbefore : engine.works scene.timeless.task = true := works_of_saAnswered hworks
      exact (engine.works_timeless scene.task).symm.trans hbefore
  | ml answer hprocessed _ _ h =>
    have htask : after.task.timeless =
      (scene.timeless.mlAnswered o system.store.unruled answer).task := (congrArg Scene.task h :)
    refine Or.inr ⟨?_, fun engine hworks => ?_⟩
    · exact (congrArg Task.snapshot htask :).trans
        (mlAnswered_snapshot o system.store.unruled scene.timeless answer)
    · rw [Engine.works_of_timeless htask] at hworks
      have hbefore : engine.works scene.timeless.task = true := works_of_mlAnswered hworks
      exact (engine.works_timeless scene.task).symm.trans hbefore
  | remerged records moment now hboth _ h =>
    have hstill : after.task.bothSucceeded = true := by
      rw [h]
      exact hboth
    refine Or.inr ⟨by rw [h]; rfl, fun engine hworks => ?_⟩
    rw [Engine.not_works_of_both hstill] at hworks
    cases hworks

/-! ### Dispatches -/

theorem givenUp_works {task : Task} (h : task.Unasked) : engine.works task.givenUp = false := by
  rw [← Bool.not_eq_true]
  intro hworks
  have hbefore : engine.works task = true := by
    cases engine with
    | sa => exact Task.awaitsSa_of_givenUp hworks
    | ml => exact Task.awaitsMl_of_givenUp hworks
  rw [Engine.not_works_of_unasked h] at hbefore
  cases hbefore

/-- A dispatch that has set an engine to work has either asked all engines, and the workflow goes
on, or it has bound the rules and has not asked all engines. -/
theorem Launched.asked_or_refused (h : scene.Launched system next after)
    (hunasked : scene.task.Unasked) (hworks : engine.works after.task = true) :
    after.workflow.status = scene.workflow.status ∨
      after.task.snapshot.isSome ∧ ¬ next.Requested system after.workflow after.task := by
  cases h with
  | failed h =>
    have htask : after.task.timeless = scene.task.timeless := (congrArg Scene.task h :)
    rw [Engine.works_of_timeless htask, Engine.not_works_of_unasked hunasked.timeless] at hworks
    cases hworks
  | givenUp h =>
    have htask : after.task.timeless = scene.task.timeless.givenUp := (congrArg Scene.task h :)
    rw [Engine.works_of_timeless htask, givenUp_works hunasked.timeless] at hworks
    cases hworks
  | asked kind snapshot _ h =>
    exact Or.inl (congrArg (fun scene : Scene => scene.workflow.status) h :)
  | refused kind snapshot _ h hrequested =>
    refine Or.inr ⟨?_, hrequested⟩
    have hsnapshot : after.task.snapshot = some snapshot :=
      (congrArg (fun scene : Scene => scene.task.snapshot) h :)
    rw [hsnapshot]
    rfl

/-- A dispatch that has bound the rules and has not asked all engines ends the workflow and leaves
its engines at work. -/
theorem Launched.works_of_refused (h : scene.Launched system next after)
    (hunasked : scene.task.Unasked) (hrunning : scene.workflow.status = .running)
    (hruns : engine.runs scene.workflow.shape = true) (hbound : after.task.snapshot.isSome)
    (hunsent : ¬ next.Requested system after.workflow after.task) :
    engine.works after.task = true ∧ after.workflow.status = .aborted := by
  have hunbound : after.task.snapshot ≠ none := Option.isSome_iff_ne_none.mp hbound
  cases h with
  | failed h =>
    have hnone : after.task.snapshot = scene.task.snapshot :=
      (congrArg (fun scene : Scene => scene.task.snapshot) h :)
    exact absurd (hnone.trans hunasked.snapshot) hunbound
  | givenUp h =>
    have hnone : after.task.snapshot = scene.task.timeless.givenUp.snapshot :=
      (congrArg (fun scene : Scene => scene.task.snapshot) h :)
    rw [givenUp_snapshot] at hnone
    exact absurd (hnone.trans hunasked.snapshot) hunbound
  | asked kind snapshot _ _ hrequested => exact absurd hrequested hunsent
  | refused kind snapshot hkind h =>
    have htask : after.task.timeless = scene.task.timeless.begun kind snapshot :=
      (congrArg Scene.task h :)
    have hstatus : after.workflow.status = (scene.timeless.workflow.ended .aborted).status :=
      (congrArg (fun scene : Scene => scene.workflow.status) h :)
    rw [Engine.works_of_timeless htask, hstatus]
    refine ⟨Engine.works_begun hkind hruns _ _, Orchestrator.abortedAt_status ?_⟩
    change scene.workflow.status ≠ .complete
    rw [hrunning]
    nofun

end Scene

end ScanFlow
