import ScanFlow.Orchestrator.Review
import ScanFlow.Orchestrator.Submit
import ScanFlow.Proofs.Lifecycle.Process

/-!
The invariant of a system between two services.

Every stored workflow has a task of its own and stands in a phase. Services about one
workflow lead it from phase to phase and spare the others; all other services write to
nothing that a phase speaks of.
-/

namespace ScanFlow

/-- The records of a system are in order, and every workflow is in a phase with a task of
its own, whose code is known. -/
structure System.Sound (system : System) : Prop where
  keyed : system.store.Keyed
  phase : ∀ id workflow, system.store.workflows.get? id = some workflow →
    ∃ task, system.store.tasks.get? workflow.taskId = some task ∧ Matched workflow task ∧
      Phase workflow task ∧ (system.store.codes.get? task.codeId).isSome
  apart : ∀ id other workflow rival, system.store.workflows.get? id = some workflow →
    system.store.workflows.get? other = some rival → workflow.taskId = rival.taskId → id = other

/-! ### Calls that no phase speaks of -/

/-- An operation that no phase speaks of. -/
def Store.Operation.Mild {α : Type} (operation : Operation α) : Prop :=
  match operation with
  | .createWorkflow _ _ | .advance _ _ | .finish _ _ | .setArtifact _ _ _ _
  | .bindAnalysis _ _ | .moveSa _ _ _ | .moveMl _ _ _ | .claimMerge _ _ _
  | .insertGroups _ _ => False
  | _ => True

def Call.Mild {α : Type} (call : Call α) : Prop :=
  match call with
  | .store operation => operation.Mild
  | _ => True

/-- An operation that only reads, registers an archive, or records what a reviewer has decided. -/
def Store.Operation.Slight {α : Type} (operation : Operation α) : Prop :=
  match operation with
  | .createCode _ _ | .setAudit _ _ | .setAuditCount _ _ => True
  | operation => operation.Reading

def Call.Slight {α : Type} (call : Call α) : Prop :=
  match call with
  | .store operation => operation.Slight
  | _ => True

theorem Call.Slight.mild {α : Type} {call : Call α} (hslight : call.Slight) : call.Mild := by
  cases call with
  | store operation =>
    cases operation with
    | createWorkflow | advance | finish | setArtifact | bindAnalysis | moveSa | moveMl | claimMerge
    | insertGroups => exact hslight.elim
    | _ => trivial
  | _ => trivial

theorem Call.Reading.mild {α : Type} {call : Call α} (hreading : call.Reading) : call.Mild := by
  cases call with
  | store operation =>
    cases operation with
    | createWorkflow | advance | finish | setArtifact | bindAnalysis | moveSa | moveMl | claimMerge
    | insertGroups => exact hreading.elim
    | _ => trivial
  | _ => trivial

def Task.standing (task : Task) : Option Task.Kind × Option String × Option TemplateSnapshot ×
    SaRun × MlRun × Bool × Uuid :=
  (task.kind, task.targetKey, task.snapshot, task.sa, task.ml, task.mergeClaimed, task.codeId)

theorem Phase.congr {workflow : Workflow} {task next : Task}
    (hsame : next.standing = task.standing) (hphase : Phase workflow task) :
    Phase workflow next := by
  simp only [Task.standing, Prod.mk.injEq] at hsame
  obtain ⟨_, htarget, hsnapshot, hsa, hml, hclaim, _⟩ := hsame
  have hended : someEnded workflow.shape next = someEnded workflow.shape task := by
    simp only [someEnded, hsa, hml]
  have hawaited : someAwaited workflow.shape next = someAwaited workflow.shape task := by
    simp only [someAwaited, hsa, hml]
  cases hphase with
  | compiling h =>
    exact .compiling ⟨h.running, h.progress, h.shape, htarget ▸ h.target,
      hsnapshot ▸ h.snapshot, hsa ▸ h.sa, hml ▸ h.ml, hclaim ▸ h.unclaimed⟩
  | analysing h =>
    have hdispatched : Dispatched workflow.shape next :=
      ⟨htarget ▸ h.dispatched.target, hsnapshot ▸ h.dispatched.snapshot,
        hsa ▸ h.dispatched.sa, hml ▸ h.dispatched.ml, hclaim ▸ h.dispatched.unclaimed⟩
    exact .analysing ⟨h.running, hdispatched, hawaited ▸ h.awaited, hended ▸ h.progress⟩
  | completed h =>
    exact .completed ⟨h.complete, h.progress, htarget ▸ h.target,
      ⟨hsa ▸ h.succeeded.sa, hml ▸ h.succeeded.ml⟩⟩
  | aborted h => exact .aborted h

namespace Store.Operation.Mild

variable {α : Type} {operation : Store.Operation α}

theorem creates (hmild : operation.Mild) : operation.creates = false := by
  cases operation with
  | createWorkflow => exact hmild.elim
  | _ => rfl

theorem onWorkflow (hmild : operation.Mild) (now : Timestamp) :
    operation.onWorkflow now = id := by
  cases operation with
  | advance | finish => exact hmild.elim
  | _ => rfl

theorem onTask (hmild : operation.Mild) (now : Timestamp) (task : Task) :
    (operation.onTask now task).standing = task.standing := by
  cases operation with
  | setArtifact | bindAnalysis | moveSa | moveMl | claimMerge => exact hmild.elim
  | storeSummary | setAuditCount =>
    simp only [Store.Operation.onTask, Store.Operation.taskChange?, Store.Operation.changed]
    split
    · rfl
    · rfl
  | _ => rfl

end Store.Operation.Mild

theorem Call.Mild.counted {α : Type} {call : Call α} (hmild : call.Mild) (nextNumber : Nat) :
    call.Counted nextNumber := by
  cases call with
  | store operation =>
    cases operation with
    | insertGroups => exact hmild.elim
    | _ => trivial
  | _ => trivial

/-- A mild call leaves all workflows as they are, and of all tasks what a phase knows. -/
theorem Call.Mild.stored {α : Type} {call : Call α} (hmild : call.Mild) (env : Environment)
    {system : System} (hkeyed : system.store.Keyed) :
    (∀ id, (call.perform env system).2.store.workflows.get? id =
      system.store.workflows.get? id) ∧
    ∀ id, ((call.perform env system).2.store.tasks.get? id).map Task.standing =
      (system.store.tasks.get? id).map Task.standing := by
  cases call with
  | clock | reserve | blobExists | blobUrl => exact ⟨fun _ => rfl, fun _ => rfl⟩
  | publish queue payload =>
    simp only [Call.perform, System.publish]
    split
    · exact ⟨fun _ => rfl, fun _ => rfl⟩
    · exact ⟨fun _ => rfl, fun _ => rfl⟩
  | store operation =>
    have hmild : operation.Mild := hmild
    constructor
    · intro id
      have hworkflows := operation.get?_perform_workflows env.now hkeyed hmild.creates id
      rw [hmild.onWorkflow, Option.map_id_fun] at hworkflows
      exact hworkflows
    · intro id
      have htasks := operation.get?_perform_tasks env.now hkeyed hmild.creates id
      refine (congrArg (Option.map Task.standing) htasks).trans ?_
      rw [Option.map_map]
      congr 1
      funext task
      exact hmild.onTask env.now task

namespace System.Sound

variable {system final : System}

theorem of_same_store (hsound : system.Sound) (hstore : final.store = system.store) :
    final.Sound := by
  obtain ⟨hkeyed, hphase, hapart⟩ := hsound
  rw [← hstore] at hkeyed hphase hapart
  exact ⟨hkeyed, hphase, hapart⟩

theorem perform_mild {α : Type} {call : Call α} (hmild : call.Mild) (env : Environment)
    (hsound : system.Sound) : (call.perform env system).2.Sound := by
  cases call with
  | clock | reserve | blobExists | blobUrl => exact hsound.of_same_store rfl
  | publish queue payload =>
    apply hsound.of_same_store
    simp only [Call.perform, System.publish]
    split
    · rfl
    · rfl
  | store operation =>
    have hmild : operation.Mild := hmild
    have hworkflows := operation.get?_perform_workflows env.now hsound.keyed
      hmild.creates
    have htasks := operation.get?_perform_tasks env.now hsound.keyed hmild.creates
    rw [hmild.onWorkflow] at hworkflows
    simp only [Option.map_id_fun, id_eq] at hworkflows
    refine ⟨hsound.keyed.perform operation, ?_, ?_⟩
    · intro id workflow hfound
      obtain ⟨task, htask, hmatched, hphase, hcode⟩ :=
        hsound.phase id workflow ((hworkflows id).symm.trans hfound)
      have hsame := hmild.onTask env.now task
      have hkind := congrArg (fun standing => standing.1) hsame
      refine ⟨operation.onTask env.now task, ?_, ?_, hphase.congr hsame, ?_⟩
      · exact (htasks workflow.taskId).trans (by rw [htask, Option.map_some])
      · exact ⟨hmatched.steps, hkind.trans hmatched.kind⟩
      · rw [operation.onTask_codeId]
        exact operation.code_known env.now hcode
    · intro id other workflow rival hfound hrival
      exact hsound.apart id other workflow rival ((hworkflows id).symm.trans hfound)
        ((hworkflows other).symm.trans hrival)

/-- A program of mild calls keeps a system sound. -/
theorem runs_mild {α : Type} {program : Program α} {outcome : Except ServiceError α}
    (hsound : system.Sound) (hruns : program.Runs system outcome final)
    (hmild : program.Only Call.Mild) : final.Sound :=
  hruns.preserves System.Sound (fun _ env _ hmild hsound => hsound.perform_mild hmild env) hmild
    hsound

/-- Every stored workflow is on a scene of its own. -/
theorem scene (hsound : system.Sound) {id : Uuid} {workflow : Workflow}
    (hfound : system.store.workflows.get? id = some workflow) :
    ∃ scene : Scene, scene.workflow = workflow ∧ system.Shows scene ∧
      Matched workflow scene.task ∧ Phase workflow scene.task := by
  obtain ⟨task, htask, hmatched, hphase, hcode⟩ := hsound.phase id workflow hfound
  have hid : workflow.id = id := hsound.keyed.workflows id workflow hfound
  have htaskId : task.id = workflow.taskId := hsound.keyed.tasks _ task htask
  refine ⟨⟨workflow, task, system.store.groups, system.store.findings, system.nextNumber⟩, rfl,
    ?_, hmatched, hphase⟩
  exact
    { keyed := hsound.keyed
      workflow := hid ▸ hfound
      task := htaskId ▸ htask
      linked := htaskId.symm
      code := hcode
      groups := rfl
      findings := rfl
      nextNumber := rfl }

/-- A stored workflow and a stored task that belong together are on one scene. -/
theorem scene_pair (hsound : system.Sound) {workflowId taskId : Uuid} {workflow : Workflow}
    {task : Task} (hworkflow : system.store.workflows.get? workflowId = some workflow)
    (htask : system.store.tasks.get? taskId = some task) (hlinked : workflow.taskId = task.id) :
    ∃ scene : Scene, scene.workflow = workflow ∧ scene.task = task ∧
      workflowId = scene.workflow.id ∧ taskId = scene.task.id ∧ system.Shows scene ∧
        Matched workflow task ∧ Phase workflow task := by
  obtain ⟨scene, rfl, hshows, hmatched, hphase⟩ := hsound.scene hworkflow
  have hid := hsound.keyed.tasks taskId task htask
  have hsame : scene.task = task := by
    have hstored := hshows.task
    rw [← hshows.linked, hlinked, hid, htask] at hstored
    exact (Option.some.inj hstored).symm
  subst hsame
  exact ⟨scene, rfl, rfl, (hsound.keyed.workflows _ _ hworkflow).symm, hid.symm, hshows, hmatched,
    hphase⟩

/-- A sound system stays sound if one workflow is led to a phase and the others are spared. -/
theorem of_spared {scene reached : Scene} (hsound : system.Sound)
    (hshows : final.Shows reached)
    (hspares : scene.Spares system final)
    (hfixed : reached.workflow.fixed = scene.workflow.fixed)
    (hid : reached.task.id = scene.task.id) (hmatched : Matched reached.workflow reached.task)
    (hphase : Phase reached.workflow reached.task)
    (hcodes : ∀ id, (system.store.codes.get? id).isSome → (final.store.codes.get? id).isSome)
    (hown : ∀ id workflow, system.store.workflows.get? id = some workflow →
      id ≠ scene.workflow.id → workflow.taskId ≠ scene.task.id) : final.Sound := by
  have hsameId := Workflow.id_of_fixed hfixed
  have hsameTask := Workflow.taskId_of_fixed hfixed
  have hlinked := hshows.linked
  -- A stored workflow is the one of the scene, or was stored before.
  have hcases : ∀ id workflow, final.store.workflows.get? id = some workflow →
      id = scene.workflow.id ∧ workflow = reached.workflow ∨
        id ≠ scene.workflow.id ∧ system.store.workflows.get? id = some workflow := by
    intro id workflow hfound
    by_cases hscene : id = scene.workflow.id
    · have hstored := hshows.workflow
      rw [hsameId, ← hscene, hfound] at hstored
      exact Or.inl ⟨hscene, Option.some.inj hstored⟩
    · exact Or.inr ⟨hscene, (hspares.workflows id hscene).symm.trans hfound⟩
  refine ⟨hshows.keyed, ?_, ?_⟩
  · intro id workflow hfound
    rcases hcases id workflow hfound with ⟨_, rfl⟩ | ⟨hother, hbefore⟩
    · exact ⟨reached.task, by rw [hlinked]; exact hshows.task, hmatched, hphase, hshows.code⟩
    · obtain ⟨task, htask, hmatched, hphase, hcode⟩ := hsound.phase id workflow hbefore
      refine ⟨task, ?_, hmatched, hphase, hcodes _ hcode⟩
      rw [hspares.tasks _ (hown id workflow hbefore hother)]
      exact htask
  · have hapart : ∀ id workflow, id ≠ scene.workflow.id →
        system.store.workflows.get? id = some workflow →
        workflow.taskId ≠ reached.workflow.taskId := by
      intro id workflow hother hbefore
      rw [hlinked, hid]
      exact hown id workflow hbefore hother
    intro id other workflow rival hfound hrival hsame
    rcases hcases id workflow hfound with ⟨hscene, rfl⟩ | ⟨hother, hbefore⟩
    · rcases hcases other rival hrival with ⟨hrivalScene, _⟩ | ⟨hrivalOther, hrivalBefore⟩
      · rw [hscene, hrivalScene]
      · exact absurd hsame.symm (hapart other rival hrivalOther hrivalBefore)
    · rcases hcases other rival hrival with ⟨_, rfl⟩ | ⟨_, hrivalBefore⟩
      · exact absurd hsame (hapart id workflow hother hbefore)
      · exact hsound.apart id other workflow rival hbefore hrivalBefore hsame

/-! ### Processing a message -/

theorem runs_findWorkflow_none {α : Type} {id : Uuid} {next : Option Workflow → Program α}
    {outcome : Except ServiceError α} (hnone : system.store.workflows.get? id = none)
    (hruns : (Program.store (.findWorkflow id) >>= next).Runs system outcome final) :
    (next none).Runs system outcome final := by
  cases hruns with
  | call _ _ env rest =>
    have hanswer : ((Call.store (.findWorkflow id)).perform env system) = (none, system) := by
      simp [Call.perform, Store.Operation.perform, hnone]
    rw [hanswer] at rest
    exact rest

/-- A message about no stored workflow changes nothing. -/
theorem process_unknown {o : Orchestrator} {message : Completion}
    {outcome : Except ServiceError Unit}
    (hnone : system.store.workflows.get? message.workflowId = none)
    (hruns : (o.process message).Runs system outcome final) : final = system := by
  cases message with
  | compile message =>
    have hrest := runs_findWorkflow_none hnone hruns
    cases hrest
    rfl
  | sa message =>
    have hrest := runs_findWorkflow_none hnone hruns
    cases hrest
    rfl
  | ml message =>
    have hrest := runs_findWorkflow_none hnone hruns
    cases hrest
    rfl

/-- Processing a message keeps a system sound, and stores no group without a number. -/
theorem process {o : Orchestrator} {message : Completion} {outcome : Except ServiceError Unit}
    (hsound : system.Sound) (hruns : (o.process message).Runs system outcome final) :
    final.Sound ∧ (system.Numbered → final.Numbered) := by
  cases hfound : system.store.workflows.get? message.workflowId with
  | none =>
    rw [process_unknown hfound hruns]
    exact ⟨hsound, id⟩
  | some workflow =>
    obtain ⟨scene, rfl, hshows, hmatched, hphase⟩ := hsound.scene hfound
    have hid := hsound.keyed.workflows _ _ hfound
    have hkeeps := Orchestrator.process_alone (o := o) hshows.linked hmatched hphase message
      hid.symm
    obtain ⟨reached, hreached, ⟨hkind, hphase⟩, hfixed, htask, hspares, hnumbered⟩ :=
      hkeeps.runs hshows hruns
    have hshape := Workflow.shape_of_fixed hfixed
    refine ⟨hsound.of_spared hreached hspares hfixed htask ?_ hphase
      (fun _ => hruns.code_known) ?_, hnumbered⟩
    · exact ⟨by rw [Workflow.steps_of_fixed hfixed, hmatched.steps, hshape],
        by rw [hkind, hmatched.kind, hshape]⟩
    · intro id workflow hother hne heq
      rw [← hshows.linked] at heq
      apply hne
      exact hsound.apart id _ workflow scene.workflow hother hshows.workflow heq

end System.Sound

end ScanFlow
