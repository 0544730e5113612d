import ScanFlow.Proofs.Record.Confined

/-!
What a submission leaves behind.

A submission that is refused has only read. Any other one has stored a workflow with its task,
whatever has become of the dispatch of its first stage. A dispatch that failed has ended the
workflow, and one that did not has asked each engine of the first stage once, or found no rules,
ended the workflow and asked nobody.
-/

namespace ScanFlow

/-- The system has gained a workflow with its task, and requests about it. Nothing else has
changed. -/
structure System.Gains (before after : System) (workflow : Workflow) : Prop where
  unknown : before.store.workflows.get? workflow.id = none
  new : before.store.tasks.get? workflow.taskId = none
  stored : after.store.workflows.get? workflow.id = some workflow
  task : ∃ task, after.store.tasks.get? workflow.taskId = some task ∧ task.id = workflow.taskId
  workflows : ∀ id, id ≠ workflow.id →
    after.store.workflows.get? id = before.store.workflows.get? id
  tasks : ∀ id, id ≠ workflow.taskId → after.store.tasks.get? id = before.store.tasks.get? id
  results : after.store.groups = before.store.groups ∧
    after.store.findings = before.store.findings
  catalog : after.store.rules = before.store.rules ∧ after.store.templates = before.store.templates
  registered : after.store.codes = before.store.codes ∧ after.store.files = before.store.files
  requests : before.broker.Gains workflow.id after.broker

inductive Submission.Ends (before after : System) : Except ServiceError Workflow → Prop where
  /-- Nothing has been stored, and nobody has been asked. -/
  | refused (e : ServiceError) (hstore : after.store = before.store)
      (hbroker : after.broker = before.broker) : Ends before after (.error e)
  /-- The dispatch of the first stage has failed. -/
  | failed (e : ServiceError) (workflow : Workflow) (hgains : before.Gains after workflow)
      (haborted : workflow.status = .aborted) (hprogress : workflow.progress = 0) :
      Ends before after (.error e)
  /-- The engines of the first stage have been asked. -/
  | asked (workflow : Workflow) (hgains : before.Gains after workflow)
      (hrunning : workflow.status = .running) (hasked : before.AsksFirst after workflow) :
      Ends before after (.ok workflow)
  /-- There were no rules. -/
  | givenUp (workflow : Workflow) (hgains : before.Gains after workflow)
      (haborted : workflow.status = .aborted) (hbroker : after.broker = before.broker) :
      Ends before after (.ok workflow)

/-- A new workflow that has been ended has done no stage. -/
theorem Scene.New.aborted {system : System} {new : Scene} {workflow : Workflow}
    (hnew : new.New system) (hended : workflow.timeless = new.workflow.timeless.ended .aborted) :
    workflow.status = .aborted ∧ workflow.progress = 0 := by
  constructor
  · have hstatus : workflow.status = (new.workflow.timeless.ended .aborted).status :=
      (congrArg Workflow.status hended :)
    rw [hstatus]
    refine Orchestrator.abortedAt_status ?_
    change new.workflow.status ≠ .complete
    rw [hnew.fresh.running]
    nofun
  · have hprogress : workflow.progress = (new.workflow.timeless.ended .aborted).progress :=
      (congrArg Workflow.progress hended :)
    rw [hprogress, Workflow.ended_progress]
    exact hnew.fresh.progress

namespace System

open Orchestrator Program

variable {o : Orchestrator} {start system final : System}

/-- Beside the new workflow and its task, the first dispatch leaves everything as it was. -/
theorem created_gains {before added : System} {workflow : Workflow} {task : Task}
    {dispatched : Except ServiceError Unit} (hreads : system.Reads before)
    (hcreated : Created before workflow task added)
    (hruns : (o.dispatchFirst workflow).Runs added dispatched final) :
    ∃ new after : Scene, new.workflow = workflow ∧ new.New system ∧
      after.workflow.given = workflow.given ∧ system.Gains final after.workflow ∧
        new.Told system final after dispatched := by
  obtain ⟨new, after, hnew, hafter, hbegun, hspares, rfl, htold⟩ :=
    created_begun hreads hcreated hruns
  have hakin := hbegun.akin
  have hid : after.workflow.id = new.workflow.id := Workflow.id_of_given hakin.given
  have htaskId : after.workflow.taskId = new.task.id :=
    (Workflow.taskId_of_given hakin.given).trans hnew.linked
  have hasked := asked_of_about (dispatchFirst_about new.workflow) hruns
  obtain rfl := hcreated.added
  have hrest := hasked.rest
  simp only [System.frame, Prod.mk.injEq, hreads.store] at hrest
  obtain ⟨hrules, htemplates, hcodes, hfiles⟩ := hrest
  refine ⟨new, after, rfl, hnew, hakin.given, ?_, htold⟩
  constructor
  · rw [hid]
    exact hnew.unknown
  · rw [htaskId]
    exact hnew.new
  · exact hafter.workflow
  · rw [hafter.linked]
    exact ⟨after.task, hafter.task, rfl⟩
  · rw [hid]
    exact hspares.workflows
  · rw [htaskId]
    exact hspares.tasks
  · exact ⟨by rw [hafter.groups, hakin.groups, hnew.groups],
      by rw [hafter.findings, hakin.findings, hnew.findings]⟩
  · exact ⟨hrules, htemplates⟩
  · exact ⟨hcodes, hfiles⟩
  · rw [hid, ← hreads.broker]
    exact hasked.gains

/-- A workflow that is stored is what is told about it. -/
theorem workflow_tells {id : Uuid} {workflow : Workflow} {outcome : Except ServiceError Workflow}
    (hstored : system.store.workflows.get? id = some workflow)
    (hruns : (Program.workflow id).Runs system outcome final) : outcome = .ok workflow := by
  have hthrough : (Program.workflow id).Through (fun _ => True) system fun outcome _ =>
      outcome = .ok workflow := by
    rw [Program.workflow, require, through_bind]
    refine through_read (fun _ _ => rfl) trivial ?_
    intro _
    rw [Store.Operation.perform, hstored]
    rfl
  exact hthrough.runs hruns

/-- A submission ends in one of four ways. -/
theorem start_ends (hkeyed : system.store.Keyed) {submission : Submission}
    {outcome : Except ServiceError Workflow}
    (hruns : (o.start submission).Runs system outcome final) :
    Submission.Ends system final outcome := by
  cases start_submits hkeyed hruns with
  | refused hreads hfails =>
    obtain ⟨e, rfl⟩ := hfails
    exact .refused e hreads.store hreads.broker
  | created hreads hcreated hdispatch hfails htells =>
    obtain ⟨new, after, rfl, hnew, hgiven, hgains, htold⟩ :=
      created_gains hreads hcreated hdispatch
    have hid : after.workflow.id = new.workflow.id := Workflow.id_of_given hgiven
    cases htold with
    | asked hopen hasked =>
      rw [workflow_tells (hid ▸ hgains.stored) (htells rfl)]
      refine .asked after.workflow hgains ?_ ?_
      · exact (congrArg Workflow.status hopen :).trans hnew.fresh.running
      · obtain ⟨requests, hqueues, habout, hwaiting⟩ := hasked
        exact ⟨requests, by rw [hqueues, Workflow.shape_of_given hgiven],
          fun request hmember => (habout request hmember).trans hid.symm, hwaiting⟩
    | givenUp hended hquiet =>
      rw [workflow_tells (hid ▸ hgains.stored) (htells rfl)]
      exact .givenUp after.workflow hgains (hnew.aborted hended).1 hquiet
    | failed e hended =>
      rw [hfails e rfl]
      obtain ⟨haborted, hprogress⟩ := hnew.aborted hended
      exact .failed e after.workflow hgains haborted hprogress

/-- **Starting a workflow is all or nothing.** However the blob storage and the queues fail, a
submission that fails has stored nothing and asked nobody, or has left one new workflow that has
ended with no stage done. One that does not fail tells the workflow as it is stored, which runs
with each engine of its first stage asked once, or has ended with none asked. -/
theorem submission_all_or_nothing (hinitial : start.Initial) (hreach : Reaches o start system)
    (submission : Submission) {outcome : Except ServiceError Workflow}
    (hruns : (o.start submission).Runs system outcome final) :
    Submission.Ends system final outcome := by
  obtain ⟨hsound, _⟩ := hinitial.reaches hreach
  exact start_ends hsound.keyed hruns

def deafWorld : Environment :=
  { quietWorld with outage := fun queue => if queue = .mlEngine then some ["queue down"] else none }

/-- The compiled code is submitted once more, with no shape given. -/
def resubmit : Program Workflow :=
  smallOrchestrator.start ⟨Uuid.generated 1, none, "manual", none, none⟩

/-- Both engines are asked at once. If only the first one can be asked, the submission fails, and
its workflow has ended. -/
theorem resubmission_all_or_nothing :
    let before := compiled .compileSaMl
    let (told, after) := resubmit.run quietWorld before
    let (failed, left) := resubmit.run deafWorld before
    Submission.Ends before after told ∧ told.isOk = true ∧
      after.broker.ready.map Delivery.queue =
        before.broker.ready.map Delivery.queue ++ [.saEngine, .mlEngine] ∧
      Submission.Ends before left failed ∧ failed.isOk = false ∧
      left.broker.ready.map Delivery.queue =
        before.broker.ready.map Delivery.queue ++ [.saEngine] := by
  refine ⟨?_, ?_, ?_, ?_, ?_, ?_⟩
  · exact submission_all_or_nothing initial_empty (reaches_compiled .compileSaMl) _
      (runs_quietly resubmit _)
  · decide +kernel
  · decide +kernel
  · exact submission_all_or_nothing initial_empty (reaches_compiled .compileSaMl) _
      (Program.runs_run deafWorld resubmit _)
  · decide +kernel
  · decide +kernel

end System

end ScanFlow
