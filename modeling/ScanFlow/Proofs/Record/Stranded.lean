import ScanFlow.Proofs.Record.Engines

/-!
Which engines are recorded as at work after their workflow has ended.

A dispatch records its engines as at work before it asks them. If one of them cannot be asked, the
workflow is ended, and the runs are left as they are. That is the only way in which a workflow ends
with an engine at work, and the record stays so until that engine answers nevertheless.
-/

namespace ScanFlow

/-- A service has bound the rules of the task and has not put all its requests onto the queues, and
no answer of the engine has been processed since. -/
inductive Stranded (o : Orchestrator) (start : System) (engine : Engine) (id : Uuid) :
    System → Prop where
  | unsent {before after : System} {workflow : Workflow} {task : Task}
      (hreach : Reaches o start before) (hservice : Service o before after)
      (hworkflow : after.store.workflows.get? id = some workflow)
      (htask : after.store.tasks.get? workflow.taskId = some task)
      (hruns : engine.runs workflow.shape = true)
      (hunbound : ∀ earlier, before.store.tasks.get? workflow.taskId = some earlier →
        earlier.snapshot = none)
      (hbound : task.snapshot.isSome) (hunsent : ¬ after.Requested before workflow task) :
      Stranded o start engine id after
  | later {system next : System} (hstranded : Stranded o start engine id system)
      (hservice : Service o system next)
      (hunanswered : ∀ workflow message, system.store.workflows.get? id = some workflow →
        engine.Answers workflow message → ¬ message.Processed o system next) :
      Stranded o start engine id next

namespace System

open Orchestrator

variable {o : Orchestrator} {start system next : System} {engine : Engine} {id : Uuid}

/-- Once it has answered, an engine is not at work. -/
theorem Sound.answered_done {scene after : Scene} (hsound : system.Sound)
    (hshows : system.Shows scene) {message : Completion}
    (hanswers : engine.Answers scene.workflow message)
    (hprocessed : message.Processed o system next) (hafter : next.Shows after)
    (hid : after.workflow.id = scene.workflow.id) :
    engine.works after.task = false := by
  obtain ⟨_, hruns⟩ := hprocessed.runs
  cases message with
  | compile answer => exact hanswers.elim
  | sa answer =>
    obtain ⟨rfl, hworkflow, htask⟩ := hanswers
    obtain ⟨nextNumber, hmoved⟩ :=
      sa_moved hsound hshows hworkflow (htask.trans hshows.linked) hruns
    obtain ⟨reached, hreached, hexpected, hgiven, _⟩ := hmoved.reached
    cases hreached.unique hafter ((Workflow.id_of_given hgiven).trans hid.symm)
    have hsame : after.task.timeless =
      (scene.timeless.saAnswered o system.store.unruled answer).task :=
        (congrArg Scene.task hexpected :)
    rw [Engine.works_of_timeless hsame, Engine.works_sa, Scene.saAnswered_done]
  | ml answer =>
    obtain ⟨rfl, hworkflow, htask⟩ := hanswers
    have hmoved := ml_moved hsound hshows hworkflow (htask.trans hshows.linked) hruns
    obtain ⟨reached, hreached, hexpected, hgiven, _⟩ := hmoved.reached
    cases hreached.unique hafter ((Workflow.id_of_given hgiven).trans hid.symm)
    have hsame : after.task.timeless =
      (scene.timeless.mlAnswered o system.store.unruled answer).task :=
        (congrArg Scene.task hexpected :)
    rw [Engine.works_of_timeless hsame, Engine.works_ml, Scene.mlAnswered_done]

/-- A workflow that ends with an engine at work has been stranded. -/
theorem Unsubmitted.stranded_of_works (hstart : start.Unsubmitted) (hreach : Reaches o start system)
    {scene : Scene} (hshows : system.Shows scene) (hended : scene.workflow.status ≠ .running)
    (hworks : engine.works scene.task = true) :
    Stranded o start engine scene.workflow.id system := by
  induction hreach generalizing scene with
  | refl =>
    have hstored := hshows.workflow
    rw [hstart.workflows, SortedMap.get?_empty] at hstored
    cases hstored
  | @step before after hreach hservice ih =>
    obtain ⟨hsound, _⟩ := hstart.toInitial.reaches hreach
    have hmatched := ((hstart.toInitial.reaches (hreach.step hservice)).1.shown hshows).1
    -- A dispatch of this service has been refused.
    have hrefused : ∀ mid : Scene, mid.Launched before after scene → mid.task.Unasked →
        mid.workflow.status = .running →
        (∀ earlier, before.store.tasks.get? scene.workflow.taskId = some earlier →
          earlier.snapshot = none) → Stranded o start engine scene.workflow.id after := by
      intro mid hlaunched hunasked hrunning hunbound
      rcases hlaunched.asked_or_refused hunasked hworks with hsame | ⟨hbound, hunsent⟩
      · exact absurd (hsame.trans hrunning) hended
      · have htask := hshows.task
        rw [← hshows.linked] at htask
        exact .unsent hreach hservice hshows.workflow htask (engine.runs_of_works hmatched hworks)
          hunbound hbound hunsent
    rcases hstart.step_back hreach hservice hshows with
      ⟨earlier, hearlier, hgiven, hstep⟩ | ⟨new, hnew, hbegun⟩
    · have hid := Workflow.id_of_given hgiven
      rcases hstep.launched_or_idle with ⟨mid, hlaunched, hunasked, hrunning, hunbound⟩ |
        ⟨_, hworked⟩
      · refine hrefused mid hlaunched hunasked hrunning ?_
        intro stored hstored
        rw [Workflow.taskId_of_given hgiven, hearlier.linked, hearlier.task,
          Option.some.injEq] at hstored
        rw [← hstored]
        exact hunbound.snapshot
      · have hworked := hworked engine hworks
        obtain ⟨hmatchedBefore, hphase⟩ := hsound.shown hearlier
        have hunanswered : ∀ message, engine.Answers earlier.workflow message →
            ¬ message.Processed o before after := by
          intro message hanswers hprocessed
          cases hworks.symm.trans
            (hsound.answered_done hearlier hanswers hprocessed hshows hid)
        obtain ⟨_, hstatus⟩ :=
          hstep.works_on hearlier.linked hmatchedBefore hphase hworked hunanswered
        rw [hid]
        refine .later (ih hearlier (hstatus ▸ hended) hworked) hservice ?_
        intro workflow message hstored
        cases hstored.symm.trans hearlier.workflow
        exact hunanswered message
    · rcases hbegun with hsame | hlaunched
      · have hstatus : scene.workflow.status = new.workflow.status :=
          (congrArg (fun scene : Scene => scene.workflow.status) hsame :)
        exact absurd (hstatus.trans hnew.fresh.running) hended
      · refine hrefused new hlaunched hnew.fresh.unasked hnew.fresh.running ?_
        intro stored hstored
        rw [Workflow.taskId_of_given hlaunched.akin.given, hnew.linked, hnew.new] at hstored
        cases hstored

/-- A stranded engine is at work, and its workflow has been aborted. -/
theorem Unsubmitted.works_of_stranded (hstart : start.Unsubmitted)
    (hstranded : Stranded o start engine id system) :
    Reaches o start system ∧ ∃ scene, system.Shows scene ∧ scene.workflow.id = id ∧
      scene.workflow.status = .aborted ∧ engine.works scene.task = true := by
  induction hstranded with
  | @unsent before after workflow task hreach hservice hworkflow htask hruns hunbound hbound
      hunsent =>
    refine ⟨hreach.step hservice, ?_⟩
    have hsoundAfter := (hstart.toInitial.reaches (hreach.step hservice)).1
    obtain ⟨scene, rfl, hshows, _⟩ := hsoundAfter.scene hworkflow
    have hid : scene.workflow.id = id := hsoundAfter.keyed.workflows _ _ hworkflow
    rw [hshows.linked, hshows.task, Option.some.injEq] at htask
    subst htask
    have hrefused : ∀ mid : Scene, mid.Launched before after scene → mid.task.Unasked →
        mid.workflow.status = .running →
        ∃ scene, after.Shows scene ∧ scene.workflow.id = id ∧ scene.workflow.status = .aborted ∧
          engine.works scene.task = true := by
      intro mid hlaunched hunasked hrunning
      have hshape : engine.runs mid.workflow.shape = true := by
        rw [← Workflow.shape_of_given hlaunched.akin.given]
        exact hruns
      obtain ⟨hworks, haborted⟩ :=
        hlaunched.works_of_refused hunasked hrunning hshape hbound hunsent
      exact ⟨scene, hshows, hid, haborted, hworks⟩
    rcases hstart.step_back hreach hservice hshows with
      ⟨earlier, hearlier, hgiven, hstep⟩ | ⟨new, hnew, hbegun⟩
    · have hstored : before.store.tasks.get? scene.workflow.taskId = some earlier.task := by
        rw [Workflow.taskId_of_given hgiven, hearlier.linked]
        exact hearlier.task
      rcases hstep.launched_or_idle with ⟨mid, hlaunched, hunasked, hrunning, _⟩ | ⟨hsame, _⟩
      · exact hrefused mid hlaunched hunasked hrunning
      · rw [hsame, hunbound earlier.task hstored] at hbound
        cases hbound
    · rcases hbegun with hsame | hlaunched
      · have hnone : scene.task.snapshot = new.task.snapshot :=
          (congrArg (fun scene : Scene => scene.task.snapshot) hsame :)
        rw [hnone, hnew.fresh.snapshot] at hbound
        cases hbound
      · exact hrefused new hlaunched hnew.fresh.unasked hnew.fresh.running
  | @later system next _ hservice hunanswered ih =>
    obtain ⟨hreach, scene, hshows, rfl, haborted, hworks⟩ := ih
    refine ⟨hreach.step hservice, ?_⟩
    obtain ⟨hsound, _⟩ := hstart.toInitial.reaches hreach
    obtain ⟨hmatched, hphase⟩ := hsound.shown hshows
    obtain ⟨after, hafter, hgiven, hstep⟩ := hstart.step hreach hservice hshows
    obtain ⟨hstill, hstatus⟩ := hstep.works_on hshows.linked hmatched hphase hworks
      fun message => hunanswered scene.workflow message hshows.workflow
    exact ⟨after, hafter, Workflow.id_of_given hgiven, hstatus.trans haborted, hstill⟩

/-- When a workflow has ended, an engine is recorded as at work exactly where a service has bound
the rules, has not asked all engines, and has not been answered by that engine since. A complete
workflow has no engine at work. -/
theorem ended_works_iff (hstart : start.Unsubmitted) (hreach : Reaches o start system)
    {workflow : Workflow} {task : Task}
    (hstored : system.store.workflows.get? id = some workflow)
    (htask : system.store.tasks.get? workflow.taskId = some task)
    (hended : workflow.status = .complete ∨ workflow.status = .aborted) (engine : Engine) :
    (engine.status task = .running ↔ Stranded o start engine id system) ∧
      (workflow.status = .complete → engine.status task ≠ .running) := by
  obtain ⟨hsound, _⟩ := hstart.toInitial.reaches hreach
  obtain ⟨scene, rfl, hshows, _⟩ := hsound.scene hstored
  have hid : scene.workflow.id = id := hsound.keyed.workflows _ _ hstored
  rw [hshows.linked, hshows.task, Option.some.injEq] at htask
  subst htask
  have hconsistent := ((hstart.inOrder hreach).scenes scene hshows).1.consistent
  have hback : Stranded o start engine id system →
      scene.workflow.status = .aborted ∧ engine.works scene.task = true := by
    intro hstranded
    obtain ⟨_, other, hother, hsame, haborted, hworks⟩ := hstart.works_of_stranded hstranded
    cases hother.unique hshows (hsame.trans hid.symm)
    exact ⟨haborted, hworks⟩
  have hforth : engine.status scene.task = .running → Stranded o start engine id system := by
    intro hrunning
    rw [← hid]
    apply hstart.stranded_of_works hreach hshows
    · rcases hended with hcomplete | haborted
      · rw [hcomplete]
        nofun
      · rw [haborted]
        nofun
    · exact (Engine.works_iff hconsistent).mpr hrunning
  refine ⟨⟨hforth, fun hstranded => (Engine.works_iff hconsistent).mp (hback hstranded).2⟩, ?_⟩
  intro hcomplete hrunning
  cases hcomplete.symm.trans (hback (hforth hrunning)).1

def mutedWorld : Environment :=
  { quietWorld with outage := fun queue => if queue = .saEngine then some ["queue down"] else none }

/-- The compiler has answered, and the static analysis could not be asked. -/
def muted : System :=
  ((smallOrchestrator.process (.compile (compiledAs "shop.jar"))).run mutedWorld
    (submitted .compileSa)).2

theorem reaches_muted : Reaches smallOrchestrator .empty muted :=
  .step (reaches_submitted .compileSa) (.process accepts_compiledAs (Program.runs_run _ _ _))

/-- Its workflow has been aborted, and the static analysis is recorded as at work. -/
theorem refused_dispatch_leaves_work :
    Reaches smallOrchestrator .empty muted ∧
      (muted.store.workflows.get? (Uuid.generated 3)).map (fun workflow =>
          (workflow.status, workflow.taskId)) = some (.aborted, Uuid.generated 2) ∧
      (muted.store.tasks.get? (Uuid.generated 2)).map (fun task => task.sa.status) =
        some .running := by
  refine ⟨reaches_muted, ?_, ?_⟩
  · decide +kernel
  · decide +kernel

/-- The static analysis that could not be asked is stranded. -/
theorem muted_stranded :
    ∃ workflow task, muted.store.workflows.get? (Uuid.generated 3) = some workflow ∧
      muted.store.tasks.get? workflow.taskId = some task ∧ workflow.status = .aborted ∧
      task.sa.status = .running ∧
      Stranded smallOrchestrator .empty .sa (Uuid.generated 3) muted := by
  have hworkflow : (muted.store.workflows.get? (Uuid.generated 3)).map (fun workflow =>
      (workflow.status, workflow.taskId)) = some (.aborted, Uuid.generated 2) := by
    decide +kernel
  have hrunning : (muted.store.tasks.get? (Uuid.generated 2)).map
      (fun task => task.sa.status) = some .running := by
    decide +kernel
  obtain ⟨workflow, hstored, hpair⟩ := Option.map_eq_some_iff.mp hworkflow
  obtain ⟨haborted, hlinked⟩ := Prod.mk.inj hpair
  obtain ⟨task, hfound, hstatus⟩ := Option.map_eq_some_iff.mp hrunning
  rw [← hlinked] at hfound
  have hiff := (ended_works_iff unsubmitted_empty reaches_muted hstored hfound
    (Or.inr haborted) .sa).1
  exact ⟨workflow, task, hstored, hfound, haborted, hstatus, hiff.mp hstatus⟩

end System

end ScanFlow
