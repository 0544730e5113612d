import ScanFlow.Orchestrator.Review
import ScanFlow.Orchestrator.Submit
import ScanFlow.Proofs.Lifecycle.Sound

/-!
Submissions, reviews and manual merges keep a system sound.

A submission adds one workflow with a task of its own, and dispatches the first stage at
once. Whatever becomes of that dispatch, the workflow stands in a phase when the
submission has ended.
-/

namespace ScanFlow

structure Fresh (workflow : Workflow) (task : Task) : Prop where
  running : workflow.status = .running
  progress : workflow.progress = 0
  target : workflow.shape.runsCompile = true → task.targetKey = none
  snapshot : task.snapshot = none
  sa : task.sa.status = .pending
  ml : task.ml.status = .pending
  unclaimed : task.mergeClaimed = false

namespace Orchestrator

open Program

variable {o : Orchestrator} {scene : Scene} {system final : System}

/-! ### The first dispatch -/

theorem first_stage (shape : Shape) :
    shape.steps ≠ 0 ∧
      (shape.stageAt? 0 = some .compile ∧ shape.runsCompile = true ∨
        shape.stageAt? 0 = some .analysis ∧ shape.steps = 1 ∧ shape.taskKind? ≠ none) := by
  cases shape <;> simp [Shape.steps, Shape.stageAt?, Shape.stages, Shape.runsCompile,
    Shape.taskKind?, Shape.runsSa, Shape.runsMl]

theorem nextStage?_of_fresh {workflow : Workflow} {task : Task} (hmatched : Matched workflow task)
    (hfresh : Fresh workflow task) : workflow.nextStage? = workflow.shape.stageAt? 0 := by
  obtain ⟨hpositive, _⟩ := first_stage workflow.shape
  have hleft : workflow.isFullyProgressed = false := by
    simp [Workflow.isFullyProgressed, hfresh.progress, hmatched.steps, hpositive]
  rw [Workflow.nextStage?, if_neg (by simp [hleft]), hfresh.progress]

theorem dispatchFirst_alone (scene : Scene) (hlinked : scene.workflow.taskId = scene.task.id)
    (hmatched : Matched scene.workflow scene.task) (hfresh : Fresh scene.workflow scene.task) :
    (o.dispatchFirst scene.workflow).Keeps alone () scene
      fun _ _ reached => InPhase scene reached := by
  have hfinish : ∀ (met : Scene) (e : ServiceError), met.workflow = scene.workflow →
      met.task.kind = scene.task.kind →
      (Program.finish scene.workflow.id .aborted >>= fun _ =>
        Program.fail (α := Unit) e).Keeps alone () met
          fun _ _ reached => InPhase scene reached := by
    intro met e hworkflow hkind
    rw [keeps_bind]
    apply alone_finish (by rw [hworkflow])
    intro now
    refine ⟨hkind, .aborted ?_⟩
    apply abortedAt_status
    rw [hworkflow, hfresh.running]
    nofun
  have hnext := nextStage?_of_fresh hmatched hfresh
  rcases (first_stage scene.workflow.shape).2 with ⟨hstage, hcompile⟩ | ⟨hstage, hone, hkind⟩
  · rw [hstage] at hnext
    have hcompiling : Phase scene.workflow scene.task :=
      .compiling ⟨hfresh.running, hfresh.progress, hcompile, hfresh.target hcompile,
        hfresh.snapshot, hfresh.sa, hfresh.ml, hfresh.unclaimed⟩
    unfold dispatchFirst
    rw [hnext]
    dsimp only
    rw [keeps_bind, keeps_attempt]
    apply dispatchCompile_alone scene.workflow
    · intro _ _
      exact ⟨rfl, hcompiling⟩
    · intro e _
      exact hfinish _ e rfl rfl
  · rw [hstage] at hnext
    unfold dispatchFirst
    rw [hnext]
    dsimp only
    rw [keeps_bind, keeps_attempt]
    refine keeps_mono (dispatchAnalysis_alone ⟨rfl, hlinked, rfl⟩ hmatched.kind
      hfresh.snapshot hfresh.unclaimed) ?_
    intro outcome _ reached heffect
    have hresult := heffect.effect
    cases outcome with
    | error e => exact hfinish reached e hresult heffect.kind
    | ok done =>
      cases done with
      | alreadyDispatched => exact hresult.elim
      | aborted =>
        obtain ⟨now, hends⟩ := hresult
        refine ⟨heffect.kind, .aborted ?_⟩
        rw [hends, abortedAt_status]
        exact hfresh.running ▸ nofun
      | dispatched queues =>
        obtain ⟨hworkflow, _, hstarted⟩ := hresult
        obtain ⟨hawaited, hended⟩ := hstarted.analysing hkind
        refine ⟨heffect.kind, .analysing ?_⟩
        rw [hworkflow]
        refine ⟨hfresh.running, hstarted.dispatched, hawaited, ?_⟩
        rw [hfresh.progress, hmatched.steps, hone, if_neg (by simp [hended])]

/-! ### Everything before the workflow is created -/

theorem resolveTarget_only {allowed : {β : Type} → Call β → Prop} (code : Code) (shape : Shape)
    (hfile : ∀ id, allowed (.store (.findFile id))) : (resolveTarget code shape).Only allowed := by
  unfold resolveTarget
  split
  · split
    · trivial
    · exact only_bind (only_require (hfile _)) fun _ => trivial
  · trivial

theorem resolveTarget_mild (code : Code) (shape : Shape) :
    (resolveTarget code shape).Only Call.Mild :=
  resolveTarget_only code shape fun _ => trivial

/-- A shape that compiles starts from no artifact. -/
theorem resolveTarget_runs {code : Code} {shape : Shape} {target : String × Option String}
    (hruns : (resolveTarget code shape).Runs system (.ok target) final)
    (hcompile : shape.runsCompile = true) : target.2 = none := by
  unfold resolveTarget at hruns
  rw [if_neg (by simp [Shape.requiresCompiledInput, hcompile])] at hruns
  cases hruns
  rfl

/-- A shape that does not compile starts from an artifact. -/
theorem resolveTarget_compiled {code : Code} {shape : Shape} {target : String × Option String}
    (hruns : (resolveTarget code shape).Runs system (.ok target) final)
    (hcompile : shape.runsCompile = false) : target.2.isSome := by
  unfold resolveTarget at hruns
  rw [if_pos (by simp [Shape.requiresCompiledInput, hcompile])] at hruns
  split at hruns
  · cases hruns
  · rcases Runs.of_bind hruns with ⟨compiled, found, _, hdone⟩ | ⟨e, _, herror⟩
    · cases hdone
      rfl
    · cases herror

theorem resolveTemplate_only {allowed : {β : Type} → Call β → Prop} (templateId : Option Uuid)
    (htemplate : ∀ id, allowed (.store (.findTemplate id)))
    (hdefault : allowed (.store .defaultTemplate)) :
    (resolveTemplate templateId).Only allowed := by
  unfold resolveTemplate
  split
  · apply only_bind (only_require (htemplate _))
    intro template
    split
    · trivial
    · trivial
  · exact only_require hdefault

theorem resolveTemplate_mild (templateId : Option Uuid) :
    (resolveTemplate templateId).Only Call.Mild :=
  resolveTemplate_only templateId (fun _ => trivial) trivial

/-- A workflow and its task have been added, and nothing else has been touched. -/
theorem createWorkflow_runs {workflow : Workflow} {task : Task}
    {outcome : Except ServiceError Unit}
    (hruns : (Program.storeOr (.createWorkflow workflow task)).Runs system outcome final) :
    final = system ∧ outcome ≠ .ok () ∨
      outcome = .ok () ∧ system.store.workflows.get? workflow.id = none ∧
        system.store.tasks.get? task.id = none ∧ final = { system with
          store := { system.store with
            tasks := system.store.tasks.insert task.id task
            workflows := system.store.workflows.insert workflow.id workflow } } := by
  obtain ⟨now, rfl, rfl⟩ := Runs.of_storeOr hruns
  rcases Store.createWorkflow_cases system.store workflow task with hsame | ⟨hnone, htask, hadded⟩
  · refine Or.inl ⟨by simp [Store.Operation.perform, hsame], ?_⟩
    simp only [Store.Operation.perform, hsame]
    intro hok
    cases hok
  · refine Or.inr ⟨?_, hnone, htask, by simp [Store.Operation.perform, hadded]⟩
    simp only [Store.Operation.perform, hadded]
    rfl

structure Created (before : System) (workflow : Workflow) (task : Task) (added : System) :
    Prop where
  linked : workflow.taskId = task.id
  matched : Matched workflow task
  fresh : Fresh workflow task
  compiled : workflow.shape.runsCompile = false → task.targetKey.isSome
  template : workflow.shape.requiresRules = true → workflow.templateId.isSome
  blank : task.sa = .initial ∧ task.ml = .initial ∧ task.summary = .notRun ∧
    task.weaknessCount = 0
  code : (before.store.codes.get? task.codeId).isSome
  unknown : before.store.workflows.get? workflow.id = none
  new : before.store.tasks.get? task.id = none
  keyed : added.store.Keyed
  added : added = { before with
    store := { before.store with
      tasks := before.store.tasks.insert task.id task
      workflows := before.store.workflows.insert workflow.id workflow } }

namespace Created

variable {before added dispatched : System} {workflow : Workflow} {task : Task}

/-- The new workflow is on a scene of its own. -/
theorem exists_scene (h : Created before workflow task added) :
    ∃ scene : Scene, scene.workflow = workflow ∧ scene.task = task ∧ added.Shows scene ∧
      scene.Spares before added := by
  refine ⟨⟨workflow, task, before.store.groups, before.store.findings, before.nextNumber⟩, rfl,
    rfl, ?_, ?_⟩
  · have hkeyed := h.keyed
    obtain rfl := h.added
    exact
      { keyed := hkeyed
        workflow := SortedMap.get?_insert_self _ _ _
        task := SortedMap.get?_insert_self _ _ _
        linked := h.linked
        code := h.code
        groups := rfl
        findings := rfl
        nextNumber := rfl }
  · obtain rfl := h.added
    exact ⟨fun id hid => SortedMap.get?_insert_of_ne _ _ _ hid,
      fun id hid => SortedMap.get?_insert_of_ne _ _ _ hid⟩

/-- Dispatching the first stage of the new workflow keeps the system sound. -/
theorem sound (h : Created before workflow task added) (hsound : before.Sound)
    {outcome : Except ServiceError Unit}
    (hruns : (o.dispatchFirst workflow).Runs added outcome dispatched) : dispatched.Sound := by
  obtain ⟨scene, rfl, rfl, hshows, hspares⟩ := h.exists_scene
  -- The task is new, so no other workflow has it.
  have hown : ∀ id other, before.store.workflows.get? id = some other →
      id ≠ scene.workflow.id → other.taskId ≠ scene.task.id := by
    intro id other hfound _ heq
    obtain ⟨found, hstored, _⟩ := hsound.phase id other hfound
    rw [heq, h.new] at hstored
    cases hstored
  obtain ⟨reached, hreached, ⟨hkind, hphase⟩, hfixed, hid, hrestSpares, _⟩ :=
    (dispatchFirst_alone scene h.linked h.matched h.fresh).runs hshows hruns
  have hshape := Workflow.shape_of_fixed hfixed
  refine hsound.of_spared hreached (hspares.trans hrestSpares) hfixed hid ?_ hphase ?_ hown
  · exact ⟨by rw [Workflow.steps_of_fixed hfixed, hshape]; exact h.matched.steps,
      by rw [hkind, hshape]; exact h.matched.kind⟩
  · intro id hknown
    obtain rfl := h.added
    exact hruns.code_known hknown

end Created

/-- What a submission makes of a system. It only reads and fails, or in the end it creates a
workflow with its task and dispatches the first stage. Then it tells why that failed, or what the
workflow has become. -/
inductive Submits (o : Orchestrator) (system : System) (outcome : Except ServiceError Workflow)
    (final : System) : Prop where
  | refused (h : system.Reads final) (hfails : ∃ e, outcome = .error e)
  | created {before added : System} {workflow : Workflow} {task : Task}
      {dispatched : Except ServiceError Unit} (hbefore : system.Reads before)
      (hcreated : Created before workflow task added)
      (hruns : (o.dispatchFirst workflow).Runs added dispatched final)
      (hfails : ∀ e, dispatched = .error e → outcome = .error e)
      (htells : dispatched = .ok () →
        (Program.workflow workflow.id).Runs final outcome final)

theorem workflow_reads {id : Uuid} {outcome : Except ServiceError Workflow}
    (hruns : (Program.workflow id).Runs system outcome final) : final = system := by
  rcases Runs.of_bind hruns with ⟨found, between, hfind, hrest⟩ | ⟨_, hfind, _⟩
  · obtain ⟨now, _, rfl⟩ := Runs.of_store hfind
    cases found with
    | none =>
      cases hrest
      rfl
    | some workflow =>
      cases hrest
      rfl
  · obtain ⟨now, hanswer, _⟩ := Runs.of_store hfind
    cases hanswer

theorem create_submits {before : System} {workflow : Workflow} {task : Task}
    {outcome : Except ServiceError Workflow} (hreads : system.Reads before)
    (hkeyed : before.store.Keyed) (hlinked : workflow.taskId = task.id)
    (hmatched : Matched workflow task) (hfresh : Fresh workflow task)
    (hcompiled : workflow.shape.runsCompile = false → task.targetKey.isSome)
    (htemplate : workflow.shape.requiresRules = true → workflow.templateId.isSome)
    (hblank : task.sa = .initial ∧ task.ml = .initial ∧ task.summary = .notRun ∧
      task.weaknessCount = 0)
    (hcode : (before.store.codes.get? task.codeId).isSome)
    (hruns : (Program.storeOr (.createWorkflow workflow task) >>= fun _ =>
      o.dispatchFirst workflow >>= fun _ => Program.workflow workflow.id).Runs before outcome
        final) : Submits o system outcome final := by
  rcases (Runs.of_bind hruns).symm with ⟨e, hcreate, hfails⟩ | ⟨_, added, hcreate, hrest⟩
  · rcases createWorkflow_runs hcreate with ⟨rfl, _⟩ | ⟨hok, _⟩
    · exact .refused hreads ⟨e, hfails⟩
    · cases hok
  rcases createWorkflow_runs hcreate with ⟨_, hrefused⟩ | ⟨_, hunknown, hnew, hadded⟩
  · exact absurd rfl hrefused
  have hcreated : Created before workflow task added :=
    ⟨hlinked, hmatched, hfresh, hcompiled, htemplate, hblank, hcode, hunknown, hnew,
      hcreate.keyed hkeyed, hadded⟩
  rcases Runs.of_bind hrest with ⟨_, dispatched, hdispatch, hread⟩ | ⟨e, hdispatch, hfails⟩
  · cases workflow_reads hread
    exact .created hreads hcreated hdispatch (by nofun) fun _ => hread
  · refine .created hreads hcreated hdispatch ?_ (by nofun)
    intro met hmet
    cases hmet
    exact hfails

/-- What is left of a submission once its target and its template have been chosen. -/
def createFresh (o : Orchestrator) (submission : Submission) (code : Code)
    (target : String × Option String) (templateId : Option Uuid) : Program Workflow := do
  let shape := submission.shape.getD (shapeFor code)
  let taskId ← Program.newId
  let taskMoment ← Program.clock
  let task := Task.fresh taskId code.id submission.trigger target.1 target.2 shape.taskKind?
    taskMoment
  let workflowId ← Program.newId
  let now ← Program.clock
  let workflow := Workflow.fresh workflowId shape task.id code.id templateId submission.trigger
    (submission.limits.getD o.defaultLimits) now
  Program.storeOr (.createWorkflow workflow task)
  o.dispatchFirst workflow
  Program.workflow workflow.id

theorem createFresh_submits {submission : Submission} {code : Code}
    {target : String × Option String} {templateId : Option Uuid} {chosen : System}
    {outcome : Except ServiceError Workflow} (hkeyed : system.store.Keyed)
    (hcode : (system.store.codes.get? code.id).isSome) (hchosen : system.Reads chosen)
    (hcompiled : (submission.shape.getD (shapeFor code)).runsCompile = false → target.2.isSome)
    (huncompiled : (submission.shape.getD (shapeFor code)).runsCompile = true → target.2 = none)
    (htemplate : (submission.shape.getD (shapeFor code)).requiresRules = true → templateId.isSome)
    (hruns : (o.createFresh submission code target templateId).Runs chosen outcome final) :
    Submits o system outcome final := by
  unfold createFresh at hruns
  rcases (Runs.of_bind hruns).symm with ⟨e, htask, hfails⟩ | ⟨taskId, named, htask, hruns⟩
  · exact .refused (hchosen.runs htask (only_newId trivial)) ⟨e, hfails⟩
  have hnamed := hchosen.runs htask (only_newId trivial)
  rcases (Runs.of_bind hruns).symm with ⟨e, hclock, hfails⟩ | ⟨taskMoment, dated, hclock, hruns⟩
  · exact .refused (hnamed.runs hclock (only_ask trivial)) ⟨e, hfails⟩
  have hdated := hnamed.runs hclock (only_ask trivial)
  rcases (Runs.of_bind hruns).symm with ⟨e, hid, hfails⟩ | ⟨workflowId, ready, hid, hruns⟩
  · exact .refused (hdated.runs hid (only_newId trivial)) ⟨e, hfails⟩
  have hready := hdated.runs hid (only_newId trivial)
  rcases (Runs.of_bind hruns).symm with ⟨e, hclock, hfails⟩ | ⟨now, before, hclock, hruns⟩
  · exact .refused (hready.runs hclock (only_ask trivial)) ⟨e, hfails⟩
  have hbefore := hready.runs hclock (only_ask trivial)
  refine create_submits hbefore (hbefore.store ▸ hkeyed) rfl ⟨rfl, rfl⟩ ?_ hcompiled htemplate
    ⟨rfl, rfl, rfl, rfl⟩ (hbefore.store ▸ hcode) hruns
  exact
    { running := rfl
      progress := rfl
      target := huncompiled
      snapshot := rfl
      sa := rfl
      ml := rfl
      unclaimed := rfl }

theorem start_submits {submission : Submission} {outcome : Except ServiceError Workflow}
    (hkeyed : system.store.Keyed) (hruns : (o.start submission).Runs system outcome final) :
    Submits o system outcome final := by
  unfold start at hruns
  rcases (Runs.of_bind hruns).symm with ⟨e, hfind, hfails⟩ | ⟨code, found, hfind, hruns⟩
  · exact .refused (.runs (.refl _) hfind (only_require trivial)) ⟨e, hfails⟩
  have hfound := (System.Reads.refl system).runs hfind (only_require trivial)
  have hcode : (system.store.codes.get? code.id).isSome := by
    obtain ⟨now, hstored, rfl⟩ := Runs.of_require hfind
    change system.store.codes.get? submission.codeId = some code at hstored
    rw [hkeyed.codes _ _ hstored, hstored]
    rfl
  dsimp only at hruns
  rcases (Runs.of_bind hruns).symm with ⟨e, hlimits, hfails⟩ | ⟨_, checked, hlimits, hruns⟩
  · exact .refused (hfound.runs hlimits trivial) ⟨e, hfails⟩
  have hchecked := hfound.runs hlimits trivial
  have hresolving : ∀ shape, (resolveTarget code shape).Only Call.Reading :=
    fun shape => resolveTarget_only code shape fun _ => trivial
  rcases (Runs.of_bind hruns).symm with ⟨e, htarget, hfails⟩ | ⟨target, resolved, htarget, hruns⟩
  · exact .refused (hchecked.runs htarget (hresolving _)) ⟨e, hfails⟩
  have hresolved := hchecked.runs htarget (hresolving _)
  obtain ⟨targetName, targetKey⟩ := target
  have hcreate : ∀ {chosen : System} {templateId : Option Uuid}, system.Reads chosen →
      ((submission.shape.getD (shapeFor code)).requiresRules = true → templateId.isSome) →
      (o.createFresh submission code (targetName, targetKey) templateId).Runs chosen outcome
        final → Submits o system outcome final :=
    fun hchosen hrules => createFresh_submits hkeyed hcode hchosen (resolveTarget_compiled htarget)
      (resolveTarget_runs htarget) hrules
  dsimp only at hruns
  split at hruns
  · have hreading : (resolveTemplate submission.templateId).Only Call.Reading :=
      resolveTemplate_only _ (fun _ => trivial) trivial
    rcases (Runs.of_bind hruns).symm with ⟨e, htemplate, hfails⟩ | ⟨_, chosen, htemplate, hruns⟩
    · exact .refused (hresolved.runs htemplate hreading) ⟨e, hfails⟩
    · exact hcreate (hresolved.runs htemplate hreading) (fun _ => rfl) hruns
  · rename_i hunruled
    exact hcreate hresolved (fun hrules => absurd hrules hunruled) hruns

theorem start_sound {submission : Submission} {outcome : Except ServiceError Workflow}
    (hsound : system.Sound) (hruns : (o.start submission).Runs system outcome final) :
    final.Sound := by
  cases start_submits hsound.keyed hruns with
  | refused h => exact hsound.of_same_store h.store
  | created hbefore hcreated hdispatch =>
    exact hcreated.sound (hsound.of_same_store hbefore.store) hdispatch

/-! ### The calls of a submission -/

/-- The calls that a submission can make: those of a dispatch, calls that no phase speaks of,
and the creation of a workflow with no stage done. -/
def Submitting {β : Type} (call : Call β) : Prop :=
  match call with
  | .store (.createWorkflow workflow _) => workflow.progress = 0 ∧ workflow.timeline = []
  | call => call.Mild ∨ Dispatching call

theorem Submitting.of_mild {β : Type} {call : Call β} (hmild : call.Mild) : Submitting call := by
  cases call with
  | store operation =>
    cases operation with
    | createWorkflow => exact hmild.elim
    | _ => exact Or.inl hmild
  | _ => exact Or.inl trivial

theorem Submitting.of_dispatching {β : Type} {call : Call β} (h : Dispatching call) :
    Submitting call := by
  cases call with
  | store operation =>
    cases operation with
    | createWorkflow => exact h.elim
    | _ => exact Or.inr h
  | _ => exact Or.inl trivial

theorem dispatchFirst_calls {allowed : {β : Type} → Call β → Prop} (workflow : Workflow)
    (hstore : ∀ {β : Type} (operation : Store.Operation β), Dispatching (.store operation) →
      allowed (.store operation))
    (hclock : allowed .clock) (hurl : ∀ key lifetime, allowed (.blobUrl key lifetime))
    (hask : ∀ request : EngineRequest, request.workflowId = workflow.id →
      allowed (.publish request.queue request.toJson)) :
    (o.dispatchFirst workflow).Only allowed := by
  unfold dispatchFirst
  split
  · trivial
  · apply only_bind (only_attempt (dispatch_calls workflow hstore hclock hurl hask _))
    intro outcome
    cases outcome with
    | ok _ => trivial
    | error e =>
      exact only_bind (only_bind (only_ask (hstore _ rfl)) fun _ => trivial) fun _ => trivial

theorem dispatchFirst_only (workflow : Workflow) :
    (o.dispatchFirst workflow).Only Dispatching :=
  dispatchFirst_calls workflow (fun _ hcall => hcall) trivial (fun _ _ => trivial)
    fun _ _ => trivial

/-- A submission reads, creates one workflow with its task, and dispatches the first stage. -/
theorem start_calls {allowed : {β : Type} → Call β → Prop} (submission : Submission)
    (hreading : ∀ {β : Type} (call : Call β), call.Reading → allowed call)
    (hdispatching : ∀ {β : Type} (call : Call β), Dispatching call → allowed call)
    (hcreate : ∀ (workflow : Workflow) (task : Task), workflow.progress = 0 →
      workflow.timeline = [] → workflow.taskId = task.id → workflow.codeId = task.codeId →
        allowed (.store (.createWorkflow workflow task))) :
    (o.start submission).Only allowed := by
  have hclock : allowed .clock := hreading _ trivial
  have hnewId : Program.newId.Only allowed := only_newId (hreading _ trivial)
  unfold start
  refine only_bind (only_require (hreading _ trivial)) fun code => ?_
  refine only_bind trivial fun _ => ?_
  refine only_bind (resolveTarget_only code _ fun _ => hreading _ trivial) fun target => ?_
  have hrest : ∀ templateId : Option Uuid,
      (o.createFresh submission code target templateId).Only allowed := by
    intro templateId
    refine only_bind hnewId fun taskId => ?_
    refine only_bind (only_ask hclock) fun taskMoment => ?_
    refine only_bind hnewId fun workflowId => ?_
    refine only_bind (only_ask hclock) fun now => ?_
    refine only_bind (only_storeOr (hcreate _ _ rfl rfl rfl rfl)) fun _ => ?_
    refine only_bind ?_ fun _ => only_require (hreading _ trivial)
    exact only_mono (dispatchFirst_only _) hdispatching
  dsimp only
  split
  · refine only_bind ?_ fun _ => hrest _
    exact resolveTemplate_only _ (fun _ => hreading _ trivial) (hreading _ trivial)
  · exact hrest _

theorem start_only (submission : Submission) : (o.start submission).Only Submitting :=
  start_calls submission (fun _ hcall => .of_mild hcall.mild) (fun _ hcall => .of_dispatching hcall)
    fun _ _ hprogress htimeline _ _ => ⟨hprogress, htimeline⟩

/-- Submissions store no groups. -/
theorem Submitting.counted {α : Type} {call : Call α} (h : Submitting call)
    (nextNumber : Nat) : call.Counted nextNumber := by
  cases call with
  | store operation =>
    cases operation with
    | insertGroups =>
      rcases h with hmild | hdispatching
      · exact hmild.elim
      · exact hdispatching.elim
    | _ => trivial
  | _ => trivial

/-! ### Services that no phase speaks of -/

theorem registerCode_only {allowed : {β : Type} → Call β → Prop} (upload : CodeUpload)
    (hexists : ∀ key, allowed (.blobExists key)) (hreserve : ∀ count, allowed (.reserve count))
    (hclock : allowed .clock) (hcreate : ∀ code file, allowed (.store (.createCode code file))) :
    (registerCode upload).Only allowed := by
  refine only_bind trivial fun _ => ?_
  refine only_bind (only_blobExists (hexists _)) fun present => ?_
  split
  · refine only_bind (only_newId (hreserve _)) fun fileId => ?_
    refine only_bind (only_ask hclock) fun fileMoment => ?_
    refine only_bind (only_newId (hreserve _)) fun codeId => ?_
    refine only_bind (only_ask hclock) fun codeMoment => ?_
    exact only_bind (only_ask (hcreate _ _)) fun _ => trivial
  · trivial

theorem registerCode_slight (upload : CodeUpload) : (registerCode upload).Only Call.Slight :=
  registerCode_only upload (fun _ => trivial) (fun _ => trivial) trivial fun _ _ => trivial

theorem registerCode_mild (upload : CodeUpload) : (registerCode upload).Only Call.Mild :=
  only_mono (registerCode_slight upload) fun _ hcall => hcall.mild

theorem auditFinding_only {allowed : {β : Type} → Call β → Prop} (taskId findingId : Uuid)
    (request : AuditRequest) (hfinding : ∀ id, allowed (.store (.findFinding id)))
    (hclock : allowed .clock) (haudit : ∀ id audit, allowed (.store (.setAudit id audit)))
    (hcounted : ∀ id, allowed (.store (.countAudited id)))
    (hcount : ∀ id count, allowed (.store (.setAuditCount id count))) :
    (auditFinding taskId findingId request).Only allowed := by
  refine only_bind trivial fun _ => ?_
  refine only_bind (only_require (hfinding _)) fun finding => ?_
  split
  · trivial
  · refine only_bind (only_ask hclock) fun now => ?_
    refine only_bind (only_ask (haudit _ _)) fun recorded => ?_
    split
    · refine only_bind (only_ask (hcounted _)) fun count => ?_
      exact only_bind (only_storeOr (hcount _ _)) fun _ => trivial
    · trivial

theorem auditFinding_slight (taskId findingId : Uuid) (request : AuditRequest) :
    (auditFinding taskId findingId request).Only Call.Slight :=
  auditFinding_only taskId findingId request (fun _ => trivial) trivial (fun _ _ => trivial)
    (fun _ => trivial) fun _ _ => trivial

theorem auditFinding_mild (taskId findingId : Uuid) (request : AuditRequest) :
    (auditFinding taskId findingId request).Only Call.Mild :=
  only_mono (auditFinding_slight taskId findingId request) fun _ hcall => hcall.mild

theorem remerge_only {allowed : {β : Type} → Call β → Prop} (taskId : Uuid)
    (hreading : ∀ {β : Type} (call : Call β), call.Reading → allowed call)
    (hstore : ∀ id summary count, allowed (.store (.storeSummary id summary count))) :
    (o.remerge taskId).Only allowed := by
  have hmerge : ∀ taskId, (o.mergeTask taskId).Only allowed := by
    intro taskId
    refine only_bind (only_require (hreading _ trivial)) fun task => ?_
    split
    · trivial
    · have hload := loadReports_only task fun _ => hreading (.store (.groupReports _)) trivial
      refine only_bind hload fun reports => ?_
      split
      · trivial
      · refine only_bind (only_ask (hreading _ trivial)) fun now => ?_
        exact only_bind (only_storeOr (hstore _ _ _)) fun _ => trivial
  refine only_bind (only_require (hreading _ trivial)) fun task => ?_
  split
  · trivial
  · exact hmerge task.id

theorem remerge_mild (taskId : Uuid) : (o.remerge taskId).Only Call.Mild :=
  remerge_only taskId (fun _ hcall => hcall.mild) fun _ _ _ => trivial

end Orchestrator

end ScanFlow
