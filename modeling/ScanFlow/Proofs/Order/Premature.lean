import ScanFlow.Proofs.Order.Commutation

/-!
Failures that are reported before the compiler has answered.

Progress counts the stages that are done. A scan that begins with its compile stage should have
none done before its compiler has answered, and indeed only the processing of a message counts
a stage: the answer of the compiler does so once its artifact is bound, and the answers of the
engines normally come after it. An engine that has not been asked may fail all the same. Its
failure is settled like any other one, so that the compile stage is counted as done, and the
workflow ends without an artifact. This is the only way to such a workflow, and nothing mends
it later.
-/

namespace ScanFlow

/-! ### What an operation leaves alone -/

namespace Store.Operation

def Starts {α : Type} (operation : Operation α) : Prop :=
  match operation with
  | .createWorkflow workflow _ => workflow.progress = 0 ∧ workflow.timeline = []
  | _ => True

/-- Beside that, no stage is counted, and no artifact is bound. -/
def Opening {α : Type} (operation : Operation α) : Prop :=
  match operation with
  | .advance _ _ | .setArtifact _ _ _ _ => False
  | operation => operation.Starts

variable {α : Type} {operation : Operation α} {store : Store}

theorem Opening.starts (hopening : operation.Opening) : operation.Starts := by
  cases operation with
  | createWorkflow => exact hopening
  | _ => trivial

theorem Opening.onWorkflow (hopening : operation.Opening) (now : Timestamp)
    (workflow : Workflow) : (operation.onWorkflow now workflow).progress = workflow.progress := by
  apply changed_keeps Workflow.progress
  intro id change hchange next hnext
  cases operation with
  | advance => exact hopening.elim
  | finish =>
    obtain ⟨rfl, rfl⟩ := Prod.mk.inj (Option.some.inj hchange)
    rw [(Workflow.finished?_eq_some hnext).2]
  | _ => cases hchange

theorem Opening.onTask (hopening : operation.Opening) (now : Timestamp) (task : Task) :
    (operation.onTask now task).targetKey = task.targetKey := by
  apply changed_keeps Task.targetKey
  intro id change hchange next hnext
  cases operation with
  | setArtifact => exact hopening.elim
  | bindAnalysis =>
    obtain ⟨rfl, rfl⟩ := Prod.mk.inj (Option.some.inj hchange)
    rw [(Task.withAnalysis?_eq_some hnext).2]
  | moveSa =>
    obtain ⟨rfl, rfl⟩ := Prod.mk.inj (Option.some.inj hchange)
    rw [(Task.withSa?_eq_some hnext).2]
  | moveMl =>
    obtain ⟨rfl, rfl⟩ := Prod.mk.inj (Option.some.inj hchange)
    rw [(Task.withMl?_eq_some hnext).2]
  | claimMerge =>
    obtain ⟨rfl, rfl⟩ := Prod.mk.inj (Option.some.inj hchange)
    rw [(Task.withClaim?_eq_some hnext).2.2]
    rfl
  | storeSummary | setAuditCount =>
    obtain ⟨rfl, rfl⟩ := Prod.mk.inj (Option.some.inj hchange)
    cases hnext
    rfl
  | _ => cases hchange

theorem Starts.added {workflow : Workflow} (hstarts : operation.Starts)
    (hadds : operation.Adds workflow) : workflow.progress = 0 ∧ workflow.timeline = [] := by
  cases operation with
  | createWorkflow =>
    have hsame : _ = workflow := hadds
    exact hsame ▸ hstarts
  | _ => exact hadds.elim

end Store.Operation

namespace Call

def Starts {α : Type} (call : Call α) : Prop :=
  match call with
  | .store operation => operation.Starts
  | _ => True

def Opening {α : Type} (call : Call α) : Prop :=
  match call with
  | .store operation => operation.Opening
  | _ => True

variable {α : Type} {call : Call α}

theorem Opening.starts (hopening : call.Opening) : call.Starts := by
  cases call with
  | store operation => exact Store.Operation.Opening.starts hopening
  | _ => trivial

theorem Mild.opening (hmild : call.Mild) : call.Opening := by
  cases call with
  | store operation =>
    cases operation with
    | createWorkflow | advance | setArtifact => exact hmild.elim
    | _ => trivial
  | _ => trivial

theorem Within.starts {scene : Scene} (hwithin : call.Within scene) : call.Starts := by
  cases call with
  | store operation =>
    cases operation with
    | createWorkflow => cases hwithin
    | _ => trivial
  | _ => trivial

/-- The calls of a submission count no stage and bind no artifact. -/
theorem opening_of_submitting (h : Orchestrator.Submitting call) : call.Opening := by
  cases call with
  | store operation =>
    cases operation with
    | createWorkflow => exact h
    | advance | setArtifact =>
      rcases h with hmild | hdispatching
      · exact hmild.elim
      · exact hdispatching.elim
    | _ => trivial
  | _ => trivial

/-- A workflow that has been aborted stays as it is. -/
theorem Moves.aborted {env : Environment} {scene next : Scene} {answer : α}
    (hmoves : call.Moves env scene answer next) (haborted : scene.workflow.status = .aborted) :
    next.workflow = scene.workflow := by
  rcases hmoves.cases with ⟨nextNumber, rfl⟩ | ⟨operation, _, _, rfl⟩
  · rfl
  · change operation.onWorkflow env.now scene.workflow = scene.workflow
    rcases operation.onWorkflow_cases env.now scene.workflow with
      h | ⟨_, hrunning, _, _⟩ | ⟨status, hmay, _⟩
    · exact h
    · cases haborted.symm.trans (Workflow.isRunning_iff.mp hrunning)
    · rw [haborted] at hmay
      cases status <;> cases hmay

theorem Moves.target {env : Environment} {scene next : Scene} {answer : α}
    (hmoves : call.Moves env scene answer next) (hopening : call.Opening) :
    next.task.targetKey = scene.task.targetKey := by
  rcases hmoves.cases with ⟨nextNumber, rfl⟩ | ⟨operation, rfl, _, rfl⟩
  · rfl
  · exact Store.Operation.Opening.onTask hopening env.now scene.task

end Call

namespace System

open Orchestrator Program

variable {o : Orchestrator} {start system next : System} {id : Uuid} {scene : Scene}

/-! ### One moment for each stage -/

structure Timed (system : System) : Prop where
  keyed : system.store.Keyed
  timed : ∀ id workflow, system.store.workflows.get? id = some workflow →
    workflow.timeline.length = workflow.progress

theorem Timed.perform {α : Type} {call : Call α} (htimed : system.Timed) (hstarts : call.Starts)
    (env : Environment) : (call.perform env system).2.Timed := by
  cases call with
  | store operation =>
    have hstarts : operation.Starts := hstarts
    refine ⟨htimed.keyed.perform operation, ?_⟩
    intro id workflow hstored
    rcases operation.stored_workflow env.now htimed.keyed hstored with
      ⟨before, hbefore, rfl⟩ | hadds
    · have hlength := htimed.timed id before hbefore
      rcases operation.onWorkflow_cases env.now before with h | ⟨_, _, _, h⟩ | ⟨_, _, h⟩
      · rw [h]
        exact hlength
      · rw [h, List.length_append, hlength]
        rfl
      · rw [h]
        exact hlength
    · obtain ⟨hprogress, htimeline⟩ := hstarts.added hadds
      rw [hprogress, htimeline]
      rfl
  | publish queue payload =>
    simp only [Call.perform, System.publish]
    split
    · exact htimed
    · exact ⟨htimed.keyed, htimed.timed⟩
  | clock | reserve | blobExists | blobUrl => exact ⟨htimed.keyed, htimed.timed⟩

theorem Timed.runs {α : Type} {program : Program α} {outcome : Except ServiceError α}
    (htimed : system.Timed) (hruns : program.Runs system outcome next)
    (honly : program.Only Call.Starts) : next.Timed :=
  hruns.preserves Timed (fun _ env _ hstarts htimed => htimed.perform hstarts env) honly htimed

theorem Timed.service (hsound : system.Sound) (htimed : system.Timed)
    (hservice : Service o system next) : next.Timed := by
  have hmild : ∀ {α : Type} {program : Program α}, program.Only Call.Mild →
      program.Only Call.Starts := fun h => only_mono h fun _ hcall => hcall.opening.starts
  cases hservice with
  | registerCode upload hruns => exact htimed.runs hruns (hmild (registerCode_mild upload))
  | start submission hruns =>
    exact htimed.runs hruns (only_mono (start_only submission) fun _ hcall =>
      (Call.opening_of_submitting hcall).starts)
  | process _ hruns =>
    rename_i message _ _
    cases hstored : system.store.workflows.get? message.workflowId with
    | none =>
      rw [Sound.process_unknown hstored hruns]
      exact htimed
    | some workflow =>
      obtain ⟨scene, rfl, hshows, hmatched, hphase⟩ := hsound.scene hstored
      have hid := hsound.keyed.workflows _ _ hstored
      exact (process_alone hshows.linked hmatched hphase message hid.symm).preserves Timed
        (fun _ env _ _ hwithin htimed => htimed.perform hwithin.starts env) hshows hruns htimed
  | remerge taskId hruns => exact htimed.runs hruns (hmild (remerge_mild taskId))
  | audit taskId findingId request hruns =>
    exact htimed.runs hruns (hmild (auditFinding_mild taskId findingId request))
  | putRule rule => exact ⟨htimed.keyed.putRule rule, htimed.timed⟩
  | putTemplate template => exact ⟨htimed.keyed.putTemplate template, htimed.timed⟩

theorem Initial.timed (hinitial : start.Initial) (hreach : Reaches o start system) :
    system.Timed := by
  induction hreach with
  | refl =>
    refine ⟨hinitial.keyed, fun id workflow hstored => ?_⟩
    rw [hinitial.workflows, SortedMap.get?_empty] at hstored
    cases hstored
  | step hbefore hservice ih => exact ih.service (hinitial.reaches hbefore).1 hservice

/-! ### Stages and artifacts -/

/-- No stage of the workflow is done, or the artifact of its task is known. -/
structure Accounted (system : System) (id : Uuid) : Prop where
  keyed : system.store.Keyed
  accounted : ∀ workflow, system.store.workflows.get? id = some workflow →
    workflow.progress = 0 ∨ ∃ task, system.store.tasks.get? workflow.taskId = some task ∧
      task.targetKey.isSome

theorem Accounted.perform {α : Type} {call : Call α} (haccounted : system.Accounted id)
    (hopening : call.Opening) (env : Environment) : (call.perform env system).2.Accounted id := by
  have hkeyed := haccounted.keyed
  cases call with
  | store operation =>
    have hopening : operation.Opening := hopening
    refine ⟨hkeyed.perform operation, ?_⟩
    intro workflow hstored
    rcases operation.stored_workflow env.now hkeyed hstored with
      ⟨before, hbefore, rfl⟩ | hadds
    · rcases haccounted.accounted before hbefore with hprogress | ⟨task, htask, htarget⟩
      · exact Or.inl ((hopening.onWorkflow env.now before).trans hprogress)
      · have hid := hkeyed.tasks _ task htask
        have hlinked : (operation.onWorkflow env.now before).taskId = before.taskId :=
          Workflow.taskId_of_fixed (operation.onWorkflow_fixed env.now before)
        refine Or.inr ⟨operation.onTask env.now task, ?_, ?_⟩
        · rw [hlinked, ← hid]
          exact operation.get?_perform_task env.now hkeyed (hid ▸ htask)
        · rwa [hopening.onTask]
    · exact Or.inl (hopening.starts.added hadds).1
  | publish queue payload =>
    simp only [Call.perform, System.publish]
    split
    · exact haccounted
    · exact ⟨hkeyed, haccounted.accounted⟩
  | clock | reserve | blobExists | blobUrl => exact ⟨hkeyed, haccounted.accounted⟩

/-- From here on stages may be counted: the artifact is known, or no stage is done and none will
be. -/
def Cleared (system : System) (id : Uuid) : Prop :=
  ∃ scene, system.Shows scene ∧ scene.workflow.id = id ∧ (scene.task.targetKey.isSome ∨
    scene.workflow.status = .aborted ∧ scene.workflow.progress = 0)

theorem Cleared.accounted (hcleared : system.Cleared id) : system.Accounted id := by
  obtain ⟨scene, hshows, rfl, hcleared⟩ := hcleared
  refine ⟨hshows.keyed, fun workflow hstored => ?_⟩
  rw [hshows.workflow, Option.some.injEq] at hstored
  subst hstored
  rcases hcleared with htarget | ⟨_, hprogress⟩
  · exact Or.inr ⟨scene.task, hshows.linked ▸ hshows.task, htarget⟩
  · exact Or.inl hprogress

theorem Cleared.perform {α : Type} {call : Call α} (hcleared : system.Cleared id)
    (env : Environment) : (call.perform env system).2.Cleared id := by
  obtain ⟨scene, hshows, rfl, hcleared⟩ := hcleared
  obtain ⟨next, hmoves, hnext⟩ := hshows.perform env call
  refine ⟨next, hnext, Workflow.id_of_fixed hmoves.fixed.1, ?_⟩
  rcases hcleared with htarget | ⟨haborted, hprogress⟩
  · obtain ⟨key, hkey⟩ := Option.isSome_iff_exists.mp htarget
    exact Or.inl (Option.isSome_iff_exists.mpr ⟨key, targetKey_kept hmoves hkey⟩)
  · rw [hmoves.aborted haborted]
    exact Or.inr ⟨haborted, hprogress⟩

theorem cleared_preserves {α : Type} (program : Program α) :
    program.Preserves fun system => system.Cleared id :=
  preserves_of_only (fun _ env _ _ hcleared => Cleared.perform hcleared env) program.only_any

/-- The answer of the compiler counts its stage only once the artifact is known. -/
theorem onCompileFinished_cleared (hshows : system.Shows scene)
    (hcompiling : Compiling scene.workflow scene.task) {answer : CompileFinished}
    (hmessage : answer.workflowId = scene.workflow.id) :
    (o.onCompileFinished answer).Through (fun _ => True) system fun _ final =>
      final = system ∨ final.Cleared scene.workflow.id := by
  unfold onCompileFinished
  rw [through_bind]
  apply through_findWorkflow hshows trivial hmessage
  unfold Rest
  dsimp only
  split
  · exact Or.inl rfl
  split
  · apply through_finish hshows rfl
    intro now next hnext _
    have hends : scene.workflow.finished? .aborted now =
        some { scene.workflow with status := .aborted, updatedAt := now } := by
      simp [Workflow.finished?, hcompiling.running, Workflow.Status.canBecome]
    rw [hends, Option.getD_some] at hnext
    exact ⟨trivial, Or.inr ⟨_, hnext, rfl, Or.inr ⟨rfl, hcompiling.progress⟩⟩⟩
  split
  · exact Or.inl rfl
  rename_i artifact _
  rw [through_bind]
  apply through_findTask hshows trivial hshows.linked
  unfold Rest acceptArtifact
  dsimp only
  rw [through_bind]
  apply through_setArtifact hshows rfl
  intro now next hnext _
  have hbinds : (scene.task.withArtifact? artifact.name artifact.objectKey
      (if scene.workflow.shape.runsSa then some compiledProgress else none) now).isSome := by
    simp [Task.withArtifact?, hcompiling.target]
  obtain ⟨bound, hbound⟩ := Option.isSome_iff_exists.mp hbinds
  rw [hbound, Option.getD_some] at hnext
  have hcleared : next.Cleared scene.workflow.id := by
    refine ⟨_, hnext, rfl, Or.inl ?_⟩
    dsimp only
    rw [(Task.withArtifact?_eq_some hbound).2]
    rfl
  refine ⟨trivial, ?_⟩
  rw [hbound]
  -- Nothing that follows takes the artifact back.
  exact (cleared_preserves _ next hcleared).mono (fun _ _ => trivial) fun _ _ hfinal =>
    Or.inr hfinal

/-! ### Failures -/

end System

def Completion.ReportsFailure (message : Completion) (workflow : Workflow) : Prop :=
  match message with
  | .compile _ => False
  | .sa answer => answer.workflowId = workflow.id ∧ answer.taskId = workflow.taskId ∧
      answer.success = false ∧ workflow.shape.runsSa = true
  | .ml answer => answer.workflowId = workflow.id ∧ answer.taskId = workflow.taskId ∧
      answer.success = false ∧ workflow.shape.runsMl = true

/-- On the way from the start, an engine of the workflow was reported to have failed while the
workflow still waited for its compiler. -/
inductive FailedEarly (o : Orchestrator) (start : System) (id : Uuid) : System → Prop where
  | failed {before after : System} {workflow : Workflow} {queue : Queue} {body : Json}
      {message : Completion} {outcome : Except ServiceError Unit}
      (hreach : Reaches o start before)
      (hstored : before.store.workflows.get? id = some workflow)
      (hrunning : workflow.status = .running) (hstage : workflow.nextStage? = some .compile)
      (haccepted : Completion.parse queue body = .ok message)
      (hfailure : message.ReportsFailure workflow)
      (hruns : (o.process message).Runs before outcome after) : FailedEarly o start id after
  | later {system next : System} (hfailed : FailedEarly o start id system)
      (hservice : Service o system next) : FailedEarly o start id next

namespace System

open Orchestrator Program

variable {o : Orchestrator} {start system next : System} {id : Uuid} {scene : Scene}

/-- Processing a message spares all workflows but one. -/
theorem Sound.process_spares {message : Completion} {outcome : Except ServiceError Unit}
    (hsound : system.Sound) (hruns : (o.process message).Runs system outcome next) :
    next = system ∨ ∃ scene, system.Shows scene ∧ scene.workflow.id = message.workflowId ∧
      scene.Spares system next := by
  cases hstored : system.store.workflows.get? message.workflowId with
  | none => exact Or.inl (Sound.process_unknown hstored hruns)
  | some workflow =>
    obtain ⟨scene, rfl, hshows, hmatched, hphase⟩ := hsound.scene hstored
    have hid := hsound.keyed.workflows _ _ hstored
    obtain ⟨_, _, _, _, _, hspares, _⟩ :=
      (process_alone hshows.linked hmatched hphase message hid.symm).runs hshows hruns
    exact Or.inr ⟨scene, hshows, hid, hspares⟩

/-- Before the compiler has answered, no answer of an engine is expected but a failure. -/
theorem failure_of_expected (hshows : system.Shows scene)
    (hmatched : Matched scene.workflow scene.task)
    (hcompiling : Compiling scene.workflow scene.task) {message : Completion}
    (hmessage : message.workflowId = scene.workflow.id)
    (hengine : ∀ answer, message ≠ .compile answer) (hexpected : system.Expects message) :
    message.ReportsFailure scene.workflow := by
  have hpair : ∀ {taskId : Uuid} {workflow : Workflow} {task : Task},
      system.store.workflows.get? message.workflowId = some workflow →
      system.store.tasks.get? taskId = some task → workflow.taskId = task.id →
        task = scene.task ∧ taskId = scene.workflow.taskId := by
    intro taskId workflow task hworkflow htask hlinked
    rw [hmessage, hshows.workflow, Option.some.injEq] at hworkflow
    subst hworkflow
    have hid : taskId = scene.task.id :=
      (hshows.keyed.tasks _ _ htask).symm.trans (hlinked.symm.trans hshows.linked)
    rw [hid, hshows.task, Option.some.injEq] at htask
    exact ⟨htask.symm, hid.trans hshows.linked.symm⟩
  cases message with
  | compile answer => exact absurd rfl (hengine answer)
  | sa answer =>
    obtain ⟨_, _, hworkflow, htask, hlinked, hruns, hmay⟩ := hexpected
    obtain ⟨rfl, hid⟩ := hpair hworkflow htask hlinked
    exact ⟨hmessage, hid, Scene.failed_of_awaited hcompiling.sa hmay, hmatched.runsSa ▸ hruns⟩
  | ml answer =>
    obtain ⟨_, _, hworkflow, htask, hlinked, hruns, hmay⟩ := hexpected
    obtain ⟨rfl, hid⟩ := hpair hworkflow htask hlinked
    exact ⟨hmessage, hid, Scene.failed_of_awaited hcompiling.ml hmay, hmatched.runsMl ▸ hruns⟩

theorem Accounted.of_same (haccounted : system.Accounted id) (hsame : next.SameAs system) :
    next.Accounted id := by
  obtain ⟨hkeyed, haccounted⟩ := haccounted
  rw [← hsame.store] at hkeyed haccounted
  exact ⟨hkeyed, haccounted⟩

theorem Accounted.runs {α : Type} {program : Program α} {outcome : Except ServiceError α}
    (haccounted : system.Accounted id) (hruns : program.Runs system outcome next)
    (honly : program.Only Call.Opening) : next.Accounted id :=
  hruns.preserves (fun system => system.Accounted id)
    (fun _ env _ hopening haccounted => haccounted.perform hopening env) honly haccounted

theorem Accounted.process {queue : Queue} {body : Json} {message : Completion}
    {outcome : Except ServiceError Unit} (hinitial : start.Initial)
    (hreach : Reaches o start system) (haccounted : system.Accounted id)
    (haccepted : Completion.parse queue body = .ok message)
    (hruns : (o.process message).Runs system outcome next) :
    next.Accounted id ∨ FailedEarly o start id next := by
  obtain ⟨hsound, _⟩ := hinitial.reaches hreach
  by_cases hmessage : message.workflowId = id
  · cases hstored : system.store.workflows.get? id with
    | none =>
      rw [Sound.process_unknown (hmessage ▸ hstored) hruns]
      exact Or.inl haccounted
    | some workflow =>
      obtain ⟨scene, rfl, hshows, hmatched, hphase⟩ := hsound.scene hstored
      have hid : scene.workflow.id = id := hsound.keyed.workflows _ _ hstored
      have hstays : (scene.task.targetKey.isSome ∨
          scene.workflow.status = .aborted ∧ scene.workflow.progress = 0) → next.Accounted id :=
        fun hcleared => Cleared.accounted
          ((cleared_preserves _).runs hruns ⟨scene, hshows, hid, hcleared⟩)
      cases hphase with
      | analysing h => exact Or.inl (hstays (Or.inl h.dispatched.target))
      | completed h => exact Or.inl (hstays (Or.inl h.target))
      | aborted h =>
        refine Or.inl (hstays ?_)
        rcases haccounted.accounted _ hstored with hprogress | ⟨task, htask, htarget⟩
        · exact Or.inr ⟨h, hprogress⟩
        · rw [hshows.linked, hshows.task, Option.some.injEq] at htask
          exact Or.inl (htask ▸ htarget)
      | compiling h =>
        by_cases hcompile : ∃ answer, message = .compile answer
        · obtain ⟨answer, rfl⟩ := hcompile
          rcases (onCompileFinished_cleared hshows h (hmessage.trans hid.symm)).runs hruns with
            rfl | hcleared
          · exact Or.inl haccounted
          · exact Or.inl (hid ▸ hcleared.accounted)
        · by_cases hexpected : system.Expects message
          · have hfailure := failure_of_expected hshows hmatched h (hmessage.trans hid.symm)
              (fun answer hsame => hcompile ⟨answer, hsame⟩) hexpected
            have hstage := nextStage?_of_compiling hmatched.steps h
            exact Or.inr (.failed hreach hstored h.running hstage haccepted hfailure hruns)
          · exact Or.inl (haccounted.of_same ((process_unexpected hsound hexpected).runs hruns))
  · rcases hsound.process_spares hruns with rfl | ⟨scene, hshows, hid, hspares⟩
    · exact Or.inl haccounted
    · refine Or.inl ⟨hruns.keyed hsound.keyed, fun workflow hstored => ?_⟩
      have hother : id ≠ scene.workflow.id := fun hsame => hmessage (hid.symm.trans hsame.symm)
      rw [hspares.workflows id hother] at hstored
      rcases haccounted.accounted workflow hstored with hprogress | ⟨task, htask, htarget⟩
      · exact Or.inl hprogress
      · refine Or.inr ⟨task, ?_, htarget⟩
        rw [hspares.tasks]
        · exact htask
        · intro hsame
          exact hother (hsound.apart _ _ _ _ hstored hshows.workflow
            (hsame.trans hshows.linked.symm))

/-- Only where an engine has failed too early is a stage counted without an artifact. -/
theorem Initial.accounted_or_failed (hinitial : start.Initial) (hreach : Reaches o start system)
    (id : Uuid) : system.Accounted id ∨ FailedEarly o start id system := by
  have hmild : ∀ {α : Type} {program : Program α}, program.Only Call.Mild →
      program.Only Call.Opening := fun h => only_mono h fun _ hcall => hcall.opening
  induction hreach with
  | refl =>
    refine Or.inl ⟨hinitial.keyed, fun workflow hstored => ?_⟩
    rw [hinitial.workflows, SortedMap.get?_empty] at hstored
    cases hstored
  | step hbefore hservice ih =>
    rcases ih with haccounted | hfailed
    · cases hservice with
      | registerCode upload hruns =>
        exact Or.inl (haccounted.runs hruns (hmild (registerCode_mild upload)))
      | start submission hruns =>
        exact Or.inl (haccounted.runs hruns (only_mono (start_only submission) fun _ hcall =>
          Call.opening_of_submitting hcall))
      | process haccepted hruns => exact haccounted.process hinitial hbefore haccepted hruns
      | remerge taskId hruns =>
        exact Or.inl (haccounted.runs hruns (hmild (remerge_mild taskId)))
      | audit taskId findingId request hruns =>
        exact Or.inl (haccounted.runs hruns (hmild (auditFinding_mild taskId findingId request)))
      | putRule rule =>
        exact Or.inl ⟨haccounted.keyed.putRule rule, haccounted.accounted⟩
      | putTemplate template =>
        exact Or.inl ⟨haccounted.keyed.putTemplate template, haccounted.accounted⟩
    · exact Or.inr (.later hfailed hservice)

/-! ### What a failure leaves behind -/

def Miscounted (system : System) (id : Uuid) : Prop :=
  ∃ scene, system.Shows scene ∧ scene.workflow.id = id ∧ scene.workflow.status = .aborted ∧
    1 ≤ scene.workflow.progress ∧ scene.task.targetKey = none

theorem Miscounted.perform {α : Type} {call : Call α} (hmiscounted : system.Miscounted id)
    (hopening : call.Opening) (env : Environment) :
    (call.perform env system).2.Miscounted id := by
  obtain ⟨scene, hshows, rfl, haborted, hprogress, htarget⟩ := hmiscounted
  obtain ⟨next, hmoves, hnext⟩ := hshows.perform env call
  have hworkflow := hmoves.aborted haborted
  refine ⟨next, hnext, ?_, ?_, ?_, (hmoves.target hopening).trans htarget⟩
  · rw [hworkflow]
  · rw [hworkflow]
    exact haborted
  · rw [hworkflow]
    exact hprogress

theorem Miscounted.runs {α : Type} {program : Program α} {outcome : Except ServiceError α}
    (hmiscounted : system.Miscounted id) (hruns : program.Runs system outcome next)
    (honly : program.Only Call.Opening) : next.Miscounted id :=
  hruns.preserves (fun system => system.Miscounted id)
    (fun _ env _ hopening hmiscounted => hmiscounted.perform hopening env) honly hmiscounted

end System

/-! A run that is given up has ended. No answer of an engine binds an artifact. -/

theorem Task.givenUp_target (task : Task) : task.givenUp.targetKey = task.targetKey := by
  unfold givenUp mlGivenUp saGivenUp
  split
  · split
    · rfl
    · rfl
  · split
    · rfl
    · rfl

theorem Task.givenUp_terminal (task : Task) : task.givenUp.sa.status.isTerminal = true := by
  have hsa : task.saGivenUp.sa.status.isTerminal = true := by
    unfold saGivenUp
    split
    · rename_i hterminal
      exact hterminal
    · rfl
  unfold givenUp mlGivenUp
  split
  · exact hsa
  · exact hsa

namespace Scene

variable {o : Orchestrator} {unruled : Option Uuid → Bool} {scene : Scene} {sa : SaFinished}
  {ml : MlFinished}

theorem answered_target :
    (scene.answered o unruled).task.targetKey = scene.task.targetKey := by
  have hsettled : (scene.settled o).task.targetKey = scene.task.targetKey :=
    congrArg (fun course => course.2.2.1) settled_course
  unfold answered
  split
  · unfold givenUp
    dsimp only
    split
    · rw [Task.givenUp_target, hsettled]
    · exact hsettled
  · exact hsettled

theorem saAnswered_target :
    (scene.saAnswered o unruled sa).task.targetKey = scene.task.targetKey := by
  unfold saAnswered
  split
  · exact answered_target
  · rfl

theorem mlAnswered_target :
    (scene.mlAnswered o unruled ml).task.targetKey = scene.task.targetKey := by
  unfold mlAnswered
  split
  · exact answered_target
  · rfl

/-- An answer that comes too early counts a stage and ends the workflow. -/
theorem answered_early_workflow (hearly : scene.workflow.isEarly = true) :
    (scene.answered o unruled).workflow.status ≠ .running ∧
      (scene.answered o unruled).workflow.progress = scene.workflow.progress + 1 := by
  have hcounted : scene.workflow.counted.progress = scene.workflow.progress + 1 := by
    simp only [Workflow.isEarly, Bool.and_eq_true, Workflow.isRunning_iff, decide_eq_true_eq]
      at hearly
    rw [Workflow.counted, Workflow.advanced?_eq_stepped hearly.1 (by omega), Option.getD_some]
    rfl
  rw [answered, if_pos hearly]
  refine ⟨?_, ?_⟩
  · change ((scene.settled o).workflow.ended .aborted).status ≠ .running
    unfold Workflow.ended Workflow.finished?
    cases hstatus : (scene.settled o).workflow.status <;>
      simp [Workflow.Status.canBecome, hstatus]
  · change ((scene.settled o).workflow.ended .aborted).progress = _
    rw [Workflow.ended_progress]
    exact (Workflow.judged_progress _ _).trans hcounted

end Scene

namespace System

open Orchestrator Program

variable {o : Orchestrator} {start system next : System} {id : Uuid} {scene : Scene}

/-- If the shape has an engine to run, then the compile stage is not the last one. -/
theorem early_of_compiling {workflow : Workflow} {task : Task} (hmatched : Matched workflow task)
    (hcompiling : Compiling workflow task) (hrules : workflow.shape.requiresRules = true) :
    workflow.isEarly = true := by
  have hcompile := hcompiling.shape
  rw [Workflow.isEarly, Workflow.isRunning, hcompiling.running, hcompiling.progress,
    hmatched.steps]
  revert hcompile hrules
  cases workflow.shape <;> decide

/-- While the compiler is awaited, an engine may fail. -/
theorem awaitsSa_of_compiling {workflow : Workflow} {task : Task} {succeeded : Bool}
    (hmatched : Matched workflow task) (hcompiling : Compiling workflow task)
    (hruns : workflow.shape.runsSa = true) (hfailed : succeeded = false) :
    task.awaitsSa succeeded = true := by
  rw [Task.awaitsSa, hmatched.runsSa, hruns, hcompiling.sa, hfailed]
  rfl

theorem awaitsMl_of_compiling {workflow : Workflow} {task : Task} {succeeded : Bool}
    (hmatched : Matched workflow task) (hcompiling : Compiling workflow task)
    (hruns : workflow.shape.runsMl = true) (hfailed : succeeded = false) :
    task.awaitsMl succeeded = true := by
  rw [Task.awaitsMl, hmatched.runsMl, hruns, hcompiling.ml, hfailed]
  rfl

/-- A failure that is reported too early ends the run with an exception, and is settled. -/
theorem failure_moved {message : Completion} {outcome : Except ServiceError Unit}
    (hsound : system.Sound) (hshows : system.Shows scene)
    (hcompiling : Compiling scene.workflow scene.task)
    (hfailure : message.ReportsFailure scene.workflow)
    (hruns : (o.process message).Runs system outcome next) :
    scene.workflow.isEarly = true ∧ ∃ (task : Task) (nextNumber : Nat),
      (task = scene.task.timeless.saEnded false [] 0 ∨
        task = scene.task.timeless.mlEnded false none) ∧
      system.Moved scene
        { ({ scene.timeless with task } : Scene).answered o system.store.unruled with nextNumber }
        next := by
  obtain ⟨hmatched, _⟩ := hsound.shown hshows
  cases message with
  | compile answer => exact hfailure.elim
  | sa answer =>
    obtain ⟨hworkflow, htask, hfailed, hrunsSa⟩ := hfailure
    obtain ⟨nextNumber, hmoved⟩ :=
      sa_moved hsound hshows hworkflow (htask.trans hshows.linked) hruns
    have hmay : scene.task.awaitsSa answer.success = true :=
      awaitsSa_of_compiling hmatched hcompiling hrunsSa hfailed
    have hawaits : scene.timeless.task.awaitsSa answer.success = true := hmay
    rw [Scene.saAnswered_of_awaited hawaits, Scene.saEnded_failed hfailed] at hmoved
    exact ⟨early_of_compiling hmatched hcompiling (by simp [Shape.requiresRules, hrunsSa]), _,
      nextNumber, Or.inl rfl, hmoved⟩
  | ml answer =>
    obtain ⟨hworkflow, htask, hfailed, hrunsMl⟩ := hfailure
    have hmoved := ml_moved hsound hshows hworkflow (htask.trans hshows.linked) hruns
    have hmay : scene.task.awaitsMl answer.success = true :=
      awaitsMl_of_compiling hmatched hcompiling hrunsMl hfailed
    have hawaits : scene.timeless.task.awaitsMl answer.success = true := hmay
    rw [Scene.mlAnswered_of_awaited hawaits, Scene.mlEnded_failed hfailed] at hmoved
    exact ⟨early_of_compiling hmatched hcompiling (by simp [Shape.requiresRules, hrunsMl]), _, _,
      Or.inr rfl, hmoved⟩

/-- A failure that is reported too early leaves a stage counted and no artifact. -/
theorem miscounted_of_failure {message : Completion} {outcome : Except ServiceError Unit}
    (hsound : system.Sound) (hshows : system.Shows scene)
    (hrunning : scene.workflow.status = .running)
    (hstage : scene.workflow.nextStage? = some .compile)
    (hfailure : message.ReportsFailure scene.workflow)
    (hruns : (o.process message).Runs system outcome next) :
    next.Miscounted scene.workflow.id := by
  obtain ⟨hmatched, hphase⟩ := hsound.shown hshows
  have hcompiling := compiling_of_stage hmatched hphase hrunning hstage
  obtain ⟨hearly, task, _, hended, hmoved⟩ :=
    failure_moved hsound hshows hcompiling hfailure hruns
  obtain ⟨reached, hreached, hsame, hgiven, _⟩ := hmoved.reached
  -- The answer leads to a workflow that has ended with one stage counted and no artifact.
  have hafter : ({ scene.timeless with task } : Scene).workflow.isEarly = true := hearly
  obtain ⟨hstatus, hprogress⟩ :=
    @Scene.answered_early_workflow o system.store.unruled _ hafter
  have htarget : task.targetKey = none := by
    rcases hended with rfl | rfl
    · exact hcompiling.target
    · exact hcompiling.target
  have hopen : reached.workflow.status ≠ .running := fun hrunning => hstatus
    ((congrArg (fun scene : Scene => scene.workflow.status) hsame :).symm.trans hrunning)
  have hunbound : reached.task.targetKey = none :=
    (congrArg (fun scene : Scene => scene.task.targetKey) hsame :).trans
      (Scene.answered_target.trans htarget)
  refine ⟨reached, hreached, Workflow.id_of_given hgiven, ?_, ?_, hunbound⟩
  · cases ((hsound.process hruns).1.shown hreached).2 with
    | compiling h => exact absurd h.running hopen
    | analysing h => exact absurd h.running hopen
    | completed h => exact absurd h.target (by simp [hunbound])
    | aborted h => exact h
  · have hone : reached.workflow.progress = scene.workflow.progress + 1 :=
      (congrArg (fun scene : Scene => scene.workflow.progress) hsame :).trans hprogress
    rw [hone]
    exact Nat.le_add_left 1 _

/-- A workflow that has been aborted is shown as it was, whatever is run. -/
theorem aborted_stays {α : Type} {program : Program α} {outcome : Except ServiceError α}
    (hshows : system.Shows scene) (haborted : scene.workflow.status = .aborted)
    (hruns : program.Runs system outcome next) :
    ∃ reached, next.Shows reached ∧ reached.workflow = scene.workflow := by
  refine hruns.preserves
    (fun system => ∃ reached, system.Shows reached ∧ reached.workflow = scene.workflow) ?_
    program.only_any ⟨scene, hshows, rfl⟩
  rintro β call env system _ ⟨reached, hreached, hsame⟩
  obtain ⟨moved, hmoves, hmoved⟩ := hreached.perform env call
  exact ⟨moved, hmoved, (hmoves.aborted (hsame ▸ haborted)).trans hsame⟩

/-- No message mends the workflow. -/
theorem Miscounted.process {message : Completion} {outcome : Except ServiceError Unit}
    (hsound : system.Sound) (hmiscounted : system.Miscounted id)
    (hruns : (o.process message).Runs system outcome next) : next.Miscounted id := by
  obtain ⟨scene, hshows, rfl, haborted, hprogress, htarget⟩ := hmiscounted
  -- The workflow stays as it is, so that all depends on the artifact.
  have hends : ∀ reached, next.Shows reached → reached.workflow.id = scene.workflow.id →
      reached.task.targetKey = none → next.Miscounted scene.workflow.id := by
    intro reached hreached hid hunbound
    obtain ⟨other, hother, hsame⟩ := aborted_stays hshows haborted hruns
    cases hreached.unique hother (by rw [hid, hsame])
    exact ⟨reached, hreached, hid, hsame ▸ haborted, hsame ▸ hprogress, hunbound⟩
  rcases hsound.process_spares hruns with rfl | ⟨other, hother, hid, hspares⟩
  · exact hends scene hshows rfl htarget
  by_cases hown : other.workflow.id = scene.workflow.id
  · cases hother.unique hshows hown
    by_cases hexpected : system.Expects message
    · cases message with
      | compile answer =>
        obtain ⟨workflow, hstored, hrunning, _⟩ := hexpected
        have hid : scene.workflow.id = answer.workflowId := hid
        rw [← hid, hshows.workflow, Option.some.injEq] at hstored
        subst hstored
        cases haborted.symm.trans hrunning
      | sa answer =>
        obtain ⟨_, _, hworkflow, htask, hlinked, _⟩ := hexpected
        obtain ⟨named, _, _, hworkflowId, htaskId, hnamed, _⟩ :=
          hsound.scene_pair hworkflow htask hlinked
        cases hnamed.unique hshows (hworkflowId.symm.trans hid.symm)
        obtain ⟨nextNumber, hmoved⟩ := sa_moved hsound hshows hid.symm htaskId hruns
        obtain ⟨reached, hreached, hsame, hgiven, _⟩ := hmoved.reached
        have hkept : reached.timeless.task.targetKey = none := by
          rw [hsame]
          exact Scene.saAnswered_target.trans htarget
        exact hends reached hreached (Workflow.id_of_given hgiven) hkept
      | ml answer =>
        obtain ⟨_, _, hworkflow, htask, hlinked, _⟩ := hexpected
        obtain ⟨named, _, _, hworkflowId, htaskId, hnamed, _⟩ :=
          hsound.scene_pair hworkflow htask hlinked
        cases hnamed.unique hshows (hworkflowId.symm.trans hid.symm)
        have hmoved := ml_moved hsound hshows hid.symm htaskId hruns
        obtain ⟨reached, hreached, hsame, hgiven, _⟩ := hmoved.reached
        have hkept : reached.timeless.task.targetKey = none := by
          rw [hsame]
          exact Scene.mlAnswered_target.trans htarget
        exact hends reached hreached (Workflow.id_of_given hgiven) hkept
    · have hsame : next.SameAs system := (process_unexpected hsound hexpected).runs hruns
      obtain ⟨reached, hreached, hworkflow⟩ := aborted_stays hshows haborted hruns
      refine hends reached hreached (by rw [hworkflow]) ?_
      have htask := hreached.task
      rw [hsame.store, ← hreached.linked, hworkflow, hshows.linked, hshows.task,
        Option.some.injEq] at htask
      rw [← htask]
      exact htarget
  · have htask : scene.task.id ≠ other.task.id := by
      intro hsame
      apply hown
      refine hsound.apart _ _ _ _ hother.workflow hshows.workflow ?_
      rw [hother.linked, hshows.linked, hsame]
    exact hends _ (hshows.spared hspares (hruns.keyed hsound.keyed) (fun _ => hruns.code_known)
      (Ne.symm hown) htask) rfl htarget

theorem Miscounted.service (hsound : system.Sound) (hmiscounted : system.Miscounted id)
    (hservice : Service o system next) : next.Miscounted id := by
  have hmild : ∀ {α : Type} {program : Program α}, program.Only Call.Mild →
      program.Only Call.Opening := fun h => only_mono h fun _ hcall => hcall.opening
  cases hservice with
  | registerCode upload hruns => exact hmiscounted.runs hruns (hmild (registerCode_mild upload))
  | start submission hruns =>
    exact hmiscounted.runs hruns (only_mono (start_only submission) fun _ hcall =>
      Call.opening_of_submitting hcall)
  | process _ hruns => exact hmiscounted.process hsound hruns
  | remerge taskId hruns => exact hmiscounted.runs hruns (hmild (remerge_mild taskId))
  | audit taskId findingId request hruns =>
    exact hmiscounted.runs hruns (hmild (auditFinding_mild taskId findingId request))
  | putRule rule =>
    obtain ⟨scene, hshows, hrest⟩ := hmiscounted
    exact ⟨scene, { hshows with keyed := hshows.keyed.putRule rule }, hrest⟩
  | putTemplate template =>
    obtain ⟨scene, hshows, hrest⟩ := hmiscounted
    exact ⟨scene, { hshows with keyed := hshows.keyed.putTemplate template }, hrest⟩

end System

theorem FailedEarly.reaches {o : Orchestrator} {start system : System} {id : Uuid}
    (hfailed : FailedEarly o start id system) : Reaches o start system := by
  induction hfailed with
  | failed hreach _ _ _ haccepted _ hruns => exact .step hreach (.process haccepted hruns)
  | later _ hservice ih => exact .step ih hservice

namespace System

open Orchestrator Program

variable {o : Orchestrator} {start system : System} {id : Uuid}

/-- After a failure that came too early, the workflow has a stage counted and no artifact for
good. -/
theorem Initial.miscounted (hinitial : start.Initial) (hfailed : FailedEarly o start id system) :
    system.Miscounted id := by
  induction hfailed with
  | failed hreach hstored hrunning hstage haccepted hfailure hruns =>
    obtain ⟨hsound, _⟩ := hinitial.reaches hreach
    obtain ⟨scene, rfl, hshows, _⟩ := hsound.scene hstored
    rw [← hsound.keyed.workflows _ _ hstored]
    exact miscounted_of_failure hsound hshows hrunning hstage hfailure hruns
  | later hbefore hservice ih =>
    exact ih.service (hinitial.reaches hbefore.reaches).1 hservice

/-- A workflow has a moment on its timeline just when it has progress. If it has progress, then
the artifact of its task is known, unless an engine was reported to have failed while the workflow
still waited for its compiler; and then it is not. -/
theorem progress_compiled_iff (hinitial : start.Initial) (hreach : Reaches o start system)
    {workflow : Workflow} (hstored : system.store.workflows.get? id = some workflow) :
    (workflow.timeline ≠ [] ↔ 1 ≤ workflow.progress) ∧
      ((1 ≤ workflow.progress → ∃ task, system.store.tasks.get? workflow.taskId = some task ∧
          task.targetKey.isSome) ↔ ¬ FailedEarly o start id system) := by
  have htimed := (hinitial.timed hreach).timed id workflow hstored
  refine ⟨?_, ?_, ?_⟩
  · rw [← htimed, Nat.one_le_iff_ne_zero, ne_eq, ne_eq, List.length_eq_zero_iff]
  · intro hcounts hfailed
    obtain ⟨scene, hshows, hid, _, hprogress, htarget⟩ := hinitial.miscounted hfailed
    have hsame := hshows.workflow
    rw [hid, hstored, Option.some.injEq] at hsame
    subst hsame
    obtain ⟨task, htask, hbound⟩ := hcounts hprogress
    rw [hshows.linked, hshows.task, Option.some.injEq] at htask
    rw [← htask, htarget] at hbound
    cases hbound
  · intro hnever hprogress
    rcases hinitial.accounted_or_failed hreach id with haccounted | hfailed
    · rcases haccounted.accounted workflow hstored with hzero | hknown
      · omega
      · exact hknown
    · exact absurd hfailed hnever

/-- Once the compiler has answered, the scan has one stage done and an artifact, so no engine has
failed too early. -/
theorem compiled_after_no_failure :
    ((compiled .compileSa).store.workflows.get? (Uuid.generated 3)).map
        (fun workflow => (workflow.progress, workflow.timeline.length)) = some (1, 1) ∧
      ¬ FailedEarly smallOrchestrator .empty (Uuid.generated 3) (compiled .compileSa) := by
  have hworkflow : ((compiled .compileSa).store.workflows.get? (Uuid.generated 3)).map
      (fun workflow => (workflow.progress, workflow.timeline.length, workflow.taskId)) =
        some (1, 1, Uuid.generated 2) := by
    decide +kernel
  have htask : ((compiled .compileSa).store.tasks.get? (Uuid.generated 2)).map
      (fun task => task.targetKey.isSome) = some true := by
    decide +kernel
  obtain ⟨workflow, hstored, hstate⟩ := Option.map_eq_some_iff.mp hworkflow
  simp only [Prod.mk.injEq] at hstate
  obtain ⟨task, hfound, htarget⟩ := Option.map_eq_some_iff.mp htask
  refine ⟨?_, ?_⟩
  · rw [hstored, Option.map_some, hstate.1, hstate.2.1]
  · apply (progress_compiled_iff initial_empty (reaches_compiled .compileSa) hstored).2.mp
    intro _
    exact ⟨task, hstate.2.2 ▸ hfound, htarget⟩

def failedFirst : System :=
  ((smallOrchestrator.process (.sa gaveUp)).run quietWorld (submitted .compileSa)).2

/-- Its compile stage is counted, and it has no artifact. -/
theorem failure_counts_compile_stage :
    Reaches smallOrchestrator .empty failedFirst ∧
      (failedFirst.store.workflows.get? (Uuid.generated 3)).map (fun workflow =>
          (workflow.shape, workflow.progress, workflow.timeline.length, workflow.taskId)) =
        some (.compileSa, 1, 1, Uuid.generated 2) ∧
      (failedFirst.store.tasks.get? (Uuid.generated 2)).map Task.targetKey = some none := by
  have haccepted : Completion.parse .saFinish gaveUp.toJson = .ok (.sa gaveUp) := rfl
  refine ⟨.step (reaches_submitted .compileSa) (.process haccepted (runs_quietly _ _)), ?_, ?_⟩
  · decide +kernel
  · decide +kernel

end System

end ScanFlow
