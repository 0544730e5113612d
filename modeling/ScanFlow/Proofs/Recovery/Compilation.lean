import ScanFlow.Proofs.Program.Cut
import ScanFlow.Proofs.Race.Compilation

/-!
Answers of the compiler that are cut and delivered again.

A delivery binds its artifact, registers it, advances the workflow, and only then goes on to
the analysis. Cut before it advances the workflow, it can be resumed: a second delivery finds
the workflow at its compile stage, binds the same artifact again, and goes on. Cut later, it
cannot: a second delivery finds a workflow that waits for no compiler any more, and drops the
message. What the first one has left undone then stays undone, be it the end of the workflow,
the snapshot of its rules, or a request to an engine.
-/

namespace ScanFlow

namespace Broker

def waiting (broker : Broker) : List (Queue × Json) :=
  broker.ready.map fun delivery => (delivery.queue, delivery.payload)

theorem waiting_publish (broker : Broker) (id : Uuid) (queue : Queue) (payload : Json) :
    (broker.publish id queue payload).waiting = broker.waiting ++ [(queue, payload)] := by
  simp [waiting, publish]

end Broker

namespace System

def AtCompileStage (system : System) (id : Uuid) : Prop :=
  ∃ workflow, system.store.workflows.get? id = some workflow ∧ workflow.status = .running ∧
    workflow.nextStage? = some .compile

/-- The rules are bound to the task, and beside what was there before, the queues hold one
request about them for each engine of the workflow. -/
def Requested (system before : System) (workflow : Workflow) (task : Task) : Prop :=
  ∃ kind snapshot source, workflow.shape.taskKind? = some kind ∧ task.snapshot = some snapshot ∧
    system.broker.waiting = before.broker.waiting ++
      (Orchestrator.analysisRequests kind
        { workflowId := workflow.id
          taskId := task.id
          source
          filename := task.targetName
          rules := snapshot.rules
          maxMemory := workflow.limits.maxMemoryGb
          timeout := workflow.limits.timeoutMinutes }).map fun request =>
            (request.queue, request.toJson)

/-- The workflow has been carried on past its compile stage: it has ended, or its analysis has
been dispatched. -/
def CarriedOn (system before : System) (id : Uuid) : Prop :=
  ∃ workflow, system.store.workflows.get? id = some workflow ∧
    (workflow.status ≠ .running ∨
      ∃ task, system.store.tasks.get? workflow.taskId = some task ∧
        system.Requested before workflow task)

def Past (system : System) (id : Uuid) : Prop :=
  ∃ scene, system.Shows scene ∧ scene.workflow.id = id ∧
    (scene.workflow.status ≠ .running ∨ 0 < scene.workflow.progress)

variable {system before : System} {scene : Scene} {id : Uuid}

theorem Shows.ended (hshows : system.Shows scene) (hended : scene.workflow.status ≠ .running) :
    system.CarriedOn before scene.workflow.id :=
  ⟨scene.workflow, hshows.workflow, Or.inl hended⟩

theorem Past.not_atCompileStage (hpast : system.Past id) : ¬ system.AtCompileStage id := by
  obtain ⟨scene, hshows, rfl, hpast⟩ := hpast
  rintro ⟨workflow, hstored, hrunning, hstage⟩
  rw [hshows.workflow, Option.some.injEq] at hstored
  subst hstored
  have hzero := (Workflow.nextStage?_eq_compile hstage).1
  rcases hpast with hended | hprogress
  · exact hended hrunning
  · omega

/-- No call leads back to the compile stage. -/
theorem Past.perform (hpast : system.Past id) {β : Type} (call : Call β) (env : Environment) :
    (call.perform env system).2.Past id := by
  obtain ⟨scene, hshows, rfl, hpast⟩ := hpast
  obtain ⟨next, hmoves, hnext⟩ := hshows.perform env call
  refine ⟨next, hnext, Workflow.id_of_fixed hmoves.fixed.1, ?_⟩
  rcases hpast with hended | hprogress
  · rcases hmoves.cases with ⟨nextNumber, rfl⟩ | ⟨operation, _, _, rfl⟩
    · exact Or.inl hended
    · refine Or.inl ?_
      change (operation.onWorkflow env.now scene.workflow).status ≠ .running
      rcases operation.onWorkflow_cases env.now scene.workflow with
        h | ⟨_, hrunning, _, _⟩ | ⟨status, hmay, h⟩
      · rw [h]
        exact hended
      · exact absurd (Workflow.isRunning_iff.mp hrunning) hended
      · rw [h]
        rintro rfl
        cases hstatus : scene.workflow.status <;> rw [hstatus] at hmay <;> cases hmay
  · exact Or.inr (Nat.lt_of_lt_of_le hprogress hmoves.onward.progress)

end System

namespace Orchestrator

open Program

variable {o : Orchestrator} {system before : System} {scene : Scene}

theorem past_preserves {α : Type} {id : Uuid} (program : Program α) :
    program.Preserves fun system => system.Past id :=
  preserves_of_only (fun call env _ _ hpast => System.Past.perform hpast call env)
    program.only_any

/-! ### The requests of a dispatch -/

/-- The requests are sent one by one, until one of them is refused. -/
theorem sendAll_through (requests : List EngineRequest)
    {post : Except ServiceError PUnit → System → Prop} (hshows : system.Shows scene)
    (hsent : ∀ (next : System) nextNumber, next.Shows { scene with nextNumber } →
      next.broker.waiting = system.broker.waiting ++
        requests.map (fun request => (request.queue, request.toJson)) → post (.ok ⟨⟩) next)
    (hrefused : ∀ e (next : System) nextNumber, next.Shows { scene with nextNumber } →
      next.broker.waiting.length < system.broker.waiting.length + requests.length →
        post (.error e) next) :
    (requests.forM fun request => do
      let _ ← Program.sendRequest request).Through (fun _ => True) system post := by
  induction requests generalizing system scene with
  | nil => exact hsent system scene.nextNumber hshows (List.append_nil _).symm
  | cons request rest ih =>
    change ((Program.sendRequest request >>= fun _ => pure PUnit.unit) >>= fun _ =>
      rest.forM _).Through _ _ _
    rw [through_bind, through_bind]
    refine through_sendRequest hshows trivial ?_ fun e =>
      hrefused e system scene.nextNumber hshows (by simp)
    intro id next hnext hbroker
    have hwaiting : next.broker.waiting =
        system.broker.waiting ++ [(request.queue, request.toJson)] := by
      rw [hbroker, Broker.waiting_publish]
    refine ⟨trivial, ih hnext ?_ ?_⟩
    · intro final nextNumber hfinal hsame
      refine hsent final nextNumber hfinal ?_
      rw [hsame, hwaiting, List.map_cons, List.append_assoc]
      rfl
    · intro e final nextNumber hfinal hless
      refine hrefused e final nextNumber hfinal ?_
      rw [hwaiting, List.length_append, List.length_singleton] at hless
      rw [List.length_cons]
      omega

/-- Where the dispatch says that it has asked the engines, it has bound the rules and asked
each engine once. -/
def Sends (before : System) (scene : Scene) (outcome : Except ServiceError DispatchOutcome)
    (final : System) : Prop :=
  ∀ queues, outcome = .ok (.dispatched queues) →
    ∃ task, final.store.tasks.get? scene.task.id = some task ∧
      final.Requested before scene.workflow task

def Undispatched (outcome : Except ServiceError DispatchOutcome) : Prop :=
  ∀ queues, outcome ≠ .ok (.dispatched queues)

theorem undispatched_error (e : ServiceError) : Undispatched (.error e) := by
  intro queues hqueues
  cases hqueues

theorem undispatched_aborted : Undispatched (.ok .aborted) := by
  intro queues hqueues
  cases hqueues

theorem Undispatched.sends {outcome : Except ServiceError DispatchOutcome} {final : System}
    (hundispatched : Undispatched outcome) : Sends before scene outcome final :=
  fun queues hqueues => absurd hqueues (hundispatched queues)

theorem sends_error (e : ServiceError) (final : System) : Sends before scene (.error e) final :=
  (undispatched_error e).sends

theorem abortWithoutRules_undispatched (workflow : Workflow) (task : Task) (kind : Task.Kind) :
    (abortWithoutRules workflow task kind).Through (fun _ => True) system fun outcome _ =>
      Undispatched outcome := by
  have hfinish : ∀ system, (giveUp workflow).Through (fun _ => True) system fun outcome _ =>
      Undispatched outcome :=
    fun _ _ => ⟨trivial, undispatched_aborted⟩
  have hrest : ∀ (now : Timestamp) (system : System),
      (abortRest workflow task kind now).Through (fun _ => True) system fun outcome _ =>
        Undispatched outcome := by
    intro now system
    unfold abortRest
    dsimp only
    split
    · cases task.ml.finished false none now with
      | error e => exact undispatched_error e
      | ok ml => exact fun env => ⟨trivial, hfinish _⟩
    · exact hfinish system
  unfold abortWithoutRules
  rw [through_bind]
  apply through_clock trivial
  intro now
  change Through _ (if _ then _ else _) _ _
  split
  · cases task.sa.finished false [] 0 now with
    | error e => exact undispatched_error e
    | ok sa => exact fun env => ⟨trivial, hrest now _⟩
  · exact hrest now system

/-- Before anything is bound, a dispatch can only fail. -/
theorem requestAnalysis_through {point : System → Prop} {workflow : Workflow} {task : Task}
    {kind : Task.Kind} {snapshot : TemplateSnapshot}
    {post : Except ServiceError DispatchOutcome → System → Prop} (hpoint : point system)
    (hfails : ∀ e, post (.error e) system)
    (hbinds : ∀ url sa ml, Binds kind task sa ml →
      (bindAndSend workflow task kind snapshot url sa ml).Through point system post) :
    (o.requestAnalysis workflow task kind snapshot).Through point system post := by
  cases hkey : task.targetKey with
  | none =>
    rw [requestAnalysis, hkey]
    exact hfails _
  | some key =>
    rw [requestAnalysis_eq hkey, through_bind]
    refine through_blobUrl hpoint ?_ hfails
    intro url
    change Through _ (_ >>= _) _ _
    rw [through_bind]
    apply through_clock hpoint
    intro now
    change Through _ (_ >>= _) _ _
    rw [through_bind]
    cases hruns : startedRuns task kind now with
    | error e => exact hfails e
    | ok runs => exact hbinds url runs.1 runs.2 (startedRuns_binds hruns)

theorem requestAnalysis_sends {kind : Task.Kind} (snapshot : TemplateSnapshot)
    (hshows : system.Shows scene) (hshape : scene.workflow.shape.taskKind? = some kind)
    (hsnapshot : scene.task.snapshot = none)
    (hwaiting : system.broker.waiting = before.broker.waiting) :
    (o.requestAnalysis scene.workflow scene.task kind snapshot).Through (fun _ => True) system
      (Sends before scene) := by
  refine requestAnalysis_through trivial (fun e => sends_error e system) ?_
  intro url sa ml _
  rw [bindAndSend, through_bind]
  apply through_bindAnalysis hshows rfl
  intro now next hnext hbroker
  simp only [Task.withAnalysis?, hsnapshot, Option.isSome_none, Bool.false_eq_true, if_false,
    Option.isSome_some, Option.getD_some, Rest, if_true, true_and] at hnext ⊢
  rw [through_bind]
  refine sendAll_through _ hnext ?_ fun e final _ _ _ => sends_error e final
  intro final nextNumber hfinal hsent _ _
  refine ⟨_, hfinal.task, kind, snapshot, url, hshape, rfl, ?_⟩
  rw [hsent, hbroker, hwaiting]

/-- The rules are only read. -/
theorem captureRules_through {point : System → Prop} (workflow : Workflow)
    {post : Except ServiceError (Option TemplateSnapshot) → System → Prop}
    (hpoint : point system) (h : ∀ outcome, post outcome system) :
    (captureRules workflow).Through point system post := by
  unfold captureRules
  split
  · exact h _
  · rw [through_bind]
    refine through_read (fun _ _ => rfl) hpoint ?_
    intro _
    unfold Rest
    dsimp only
    split
    · exact h _
    · rw [through_bind]
      refine through_read (fun _ _ => rfl) hpoint ?_
      intro _
      unfold Rest
      dsimp only
      split
      · exact h _
      · rw [through_bind]
        exact through_clock hpoint fun _ => h _

theorem dispatchAnalysis_sends (hshows : system.Shows scene)
    (hsnapshot : scene.task.snapshot = none)
    (hwaiting : system.broker.waiting = before.broker.waiting) :
    (o.dispatchAnalysis scene.workflow).Through (fun _ => True) system (Sends before scene) := by
  unfold dispatchAnalysis
  rw [through_bind]
  apply through_task hshows trivial hshows.linked
  unfold Rest
  dsimp only
  rw [if_neg (by simp [hsnapshot])]
  cases hshape : scene.workflow.shape.taskKind? with
  | none => exact sends_error _ _
  | some kind =>
    dsimp only
    rw [through_bind]
    apply captureRules_through scene.workflow trivial
    intro outcome
    cases outcome with
    | error e => exact sends_error e _
    | ok captured =>
      cases captured with
      | none =>
        apply (abortWithoutRules_undispatched scene.workflow scene.task kind).mono fun _ => id
        exact fun _ _ hundispatched => hundispatched.sends
      | some snapshot => exact requestAnalysis_sends snapshot hshows hshape hsnapshot hwaiting

/-! ### Past the compile stage -/

/-- Going on to the analysis ends the workflow, or binds and asks everything. -/
theorem chain_carries (hshows : system.Shows scene) (hrunning : scene.workflow.status = .running)
    (hstage : scene.workflow.nextStage? = some .analysis)
    (hkind : scene.task.kind = scene.workflow.shape.taskKind?)
    (hsnapshot : scene.task.snapshot = none) (hclaim : scene.task.mergeClaimed = false)
    (hwaiting : system.broker.waiting = before.broker.waiting) :
    (o.chain scene.workflow).Through (fun _ => True) system
      fun _ final => final.CarriedOn before scene.workflow.id := by
  have haborts : ∀ (final : System) (met : Scene) now, final.Shows met →
      met.workflow = abortedAt now scene.workflow → final.CarriedOn before scene.workflow.id := by
    intro final met now hmet hworkflow
    have hid : met.workflow.id = scene.workflow.id := by
      rw [hworkflow]
      exact Workflow.id_of_fixed abortedAt_fixed
    rw [← hid]
    apply hmet.ended
    rw [hworkflow, abortedAt_status (by simp [hrunning])]
    intro hopen
    cases hopen
  have hcopy : CopyOf scene scene.workflow := ⟨rfl, hshows.linked, rfl⟩
  have heffects := (dispatchAnalysis_alone (o := o) hcopy hkind hsnapshot hclaim).through hshows
  unfold chain
  rw [if_neg (by simp [Workflow.isRunning, hrunning]), hstage]
  dsimp only
  rw [through_bind, through_attempt]
  apply (heffects.and (dispatchAnalysis_sends hshows hsnapshot hwaiting)).mono fun _ _ => trivial
  rintro outcome final ⟨⟨reached, hreached, heffect⟩, hsends⟩
  have hresult := heffect.effect
  cases outcome with
  | error e =>
    have hworkflow : reached.workflow = scene.workflow := hresult
    unfold Rest
    dsimp only
    refine through_finish hreached (by rw [hworkflow]) ?_
    intro now next hnext _
    refine ⟨trivial, haborts next _ now hnext ?_⟩
    rw [hworkflow]
    rfl
  | ok done =>
    cases done with
    | dispatched queues =>
      obtain ⟨hworkflow, _⟩ := hresult
      obtain ⟨task, htask, hrequested⟩ := hsends queues rfl
      refine ⟨scene.workflow, hworkflow ▸ hreached.workflow, Or.inr ⟨task, ?_, hrequested⟩⟩
      rw [hshows.linked]
      exact htask
    | aborted =>
      obtain ⟨now, hworkflow⟩ := hresult
      exact haborts final reached now hreached hworkflow
    | alreadyDispatched => exact hresult.elim

/-- After the compile stage a workflow has done all its stages, or goes on to its analysis. -/
theorem analysis_after_compile {workflow : Workflow} {task : Task}
    (hmatched : Matched workflow task) (hcompile : workflow.shape.runsCompile = true)
    (hprogress : workflow.progress = 1) (hleft : ¬ workflow.isFullyProgressed = true) :
    workflow.nextStage? = some .analysis := by
  have hstages : workflow.shape.stages = [.compile, .analysis] := by
    rcases compile_stages hcompile with hshape | ⟨hstages, _⟩
    · exfalso
      apply hleft
      rw [Workflow.isFullyProgressed, hmatched.steps, hprogress, hshape]
      rfl
    · exact hstages
  rw [Workflow.nextStage?, if_neg hleft, hprogress, Shape.stageAt?, hstages]
  rfl

/-- Going on after the compile stage: to the end, or to the analysis. -/
theorem goOn_carries (hshows : system.Shows scene)
    (hmatched : Matched scene.workflow scene.task)
    (hcompiled : Compiled scene.workflow scene.task) (hprogress : scene.workflow.progress = 1)
    (hwaiting : system.broker.waiting = before.broker.waiting) :
    (o.goOn scene.workflow).Through (fun _ => True) system
      fun _ final => final.CarriedOn before scene.workflow.id := by
  unfold goOn
  split
  · refine through_finish hshows rfl ?_
    intro now next hnext _
    have hends : scene.workflow.finished? .complete now =
        some { scene.workflow with status := .complete, updatedAt := now } := by
      simp [Workflow.finished?, hcompiled.running, Workflow.Status.canBecome]
    rw [hends, Option.getD_some] at hnext
    refine ⟨trivial, hnext.ended ?_⟩
    intro hopen
    cases hopen
  · rename_i hleft
    exact chain_carries hshows hcompiled.running
      (analysis_after_compile hmatched hcompiled.shape hprogress hleft) hmatched.kind
      hcompiled.snapshot hcompiled.unclaimed hwaiting

/-! ### Before the compile stage is counted -/

/-- At most the artifact of one answer has been bound; nothing else has happened. -/
structure Opened (origin : Scene) (key : String) (scene : Scene) : Prop where
  workflow : scene.workflow = origin.workflow
  id : scene.task.id = origin.task.id
  kind : scene.task.kind = origin.task.kind
  target : scene.task.targetKey = none ∨ scene.task.targetKey = some key
  snapshot : scene.task.snapshot = none
  unclaimed : scene.task.mergeClaimed = false

/-- Where the processing of an answer with some key can be cut: while the workflow still waits
for its compiler and nobody else has been asked, or after that. -/
def Resumable (origin : Scene) (key : String) (before system : System) : Prop :=
  (∃ scene, system.Shows scene ∧ Opened origin key scene ∧ system.broker = before.broker) ∨
    system.Past origin.workflow.id

variable {origin : Scene} {key : String}

/-- Counting the compile stage, once the artifact is bound. From then on no call leads back. -/
theorem advanceCompiled_through (hmatched : Matched origin.workflow origin.task)
    (hcompiling : Compiling origin.workflow origin.task) (hshows : system.Shows scene)
    (hopened : Opened origin key scene) (htarget : scene.task.targetKey.isSome)
    (hbroker : system.broker = before.broker) :
    (o.advanceCompiled scene.workflow).Through (Resumable origin key before) system
      fun _ final =>
        final.CarriedOn before origin.workflow.id ∧ final.Past origin.workflow.id := by
  have hworkflow := hopened.workflow
  have hrunning : scene.workflow.status = .running := hworkflow ▸ hcompiling.running
  have hless : scene.workflow.progress < scene.workflow.steps := by
    rw [hworkflow, hcompiling.progress, hmatched.steps]
    cases origin.workflow.shape <;> simp [Shape.steps, Shape.stages]
  unfold advanceCompiled
  rw [through_bind]
  apply through_clock (Or.inl ⟨scene, hshows, hopened, hbroker⟩)
  intro moment
  change Through _ (_ >>= _) _ _
  rw [through_bind]
  apply through_advance hshows rfl
  intro next hnext hsame
  rw [Workflow.advanced?_eq_stepped hrunning hless] at hnext ⊢
  have hid : scene.workflow.id = origin.workflow.id := by rw [hworkflow]
  have hpast : next.Past origin.workflow.id := ⟨_, hnext, hid, Or.inr (Nat.succ_pos _)⟩
  have hwaiting : next.broker.waiting = before.broker.waiting := by rw [hsame.trans hbroker]
  have hadvanced : Matched (scene.workflow.stepped moment) scene.task :=
    ⟨by simp [Workflow.stepped, hworkflow, hmatched.steps],
      hopened.kind.trans (hworkflow ▸ hmatched.kind)⟩
  have hcompiled : Compiled (scene.workflow.stepped moment) scene.task :=
    ⟨hrunning, hworkflow ▸ hcompiling.shape, htarget, hopened.snapshot, hopened.unclaimed⟩
  have hone : (scene.workflow.stepped moment).progress = 1 := by
    simp [Workflow.stepped, hworkflow, hcompiling.progress]
  have hcarries := goOn_carries (o := o) hnext hadvanced hcompiled hone hwaiting
  have hstays := past_preserves (o.goOn (scene.workflow.stepped moment)) next hpast
  refine ⟨Or.inr hpast, (hcarries.and hstays).mono (fun _ hpoint => Or.inr hpoint.2) ?_⟩
  intro _ final hfinal
  rw [← hid] at hfinal ⊢
  exact hfinal

theorem acceptArtifact_through (hmatched : Matched origin.workflow origin.task)
    (hcompiling : Compiling origin.workflow origin.task) (hshows : system.Shows scene)
    (hopened : Opened origin key scene) (hbroker : system.broker = before.broker)
    {artifact : CompileArtifact} (hkey : artifact.objectKey = key) :
    (o.acceptArtifact scene.workflow scene.task artifact).Through (Resumable origin key before)
      system fun _ final =>
        final.CarriedOn before origin.workflow.id ∧ final.Past origin.workflow.id := by
  unfold acceptArtifact
  dsimp only
  rw [through_bind]
  apply through_setArtifact hshows rfl
  intro now next hnext hsame
  obtain ⟨bound, hbound⟩ : ∃ bound, scene.task.withArtifact? artifact.name artifact.objectKey
      (if scene.workflow.shape.runsSa then some compiledProgress else none) now = some bound := by
    rcases hopened.target with hnone | hown
    · simp [Task.withArtifact?, hnone]
    · simp [Task.withArtifact?, hown, hkey]
  rw [hbound] at hnext ⊢
  have hbroker := hsame.trans hbroker
  have htask := (Task.withArtifact?_eq_some hbound).2
  have hcode : bound.codeId = scene.task.codeId := by rw [htask]
  have htarget : bound.targetKey = some key := by rw [htask, ← hkey]
  -- The artifact is bound, and stays so while numbers are taken and the file is registered.
  have hopen : ∀ nextNumber, Opened origin key { scene with task := bound, nextNumber } := by
    intro nextNumber
    refine ⟨hopened.workflow, ?_, ?_, Or.inr htarget, ?_, ?_⟩
    · rw [htask]
      exact hopened.id
    · rw [htask]
      exact hopened.kind
    · rw [htask]
      exact hopened.snapshot
    · rw [htask]
      exact hopened.unclaimed
  refine ⟨Or.inl ⟨_, hnext, hopen _, hbroker⟩, ?_⟩
  change Through _ (_ >>= _) _ _
  rw [through_bind]
  apply through_newId hnext
  intro id next hnext hsame
  have hbroker := hsame.trans hbroker
  refine ⟨Or.inl ⟨_, hnext, hopen _, hbroker⟩, ?_⟩
  change Through _ (_ >>= _) _ _
  rw [through_bind]
  apply through_clock (Or.inl ⟨_, hnext, hopen _, hbroker⟩)
  intro created
  change Through _ (_ >>= _) _ _
  rw [through_bind]
  apply through_registerCompiled hnext hcode.symm
  intro added next hnext hsame
  have hbroker := hsame.trans hbroker
  refine ⟨Or.inl ⟨_, hnext, hopen _, hbroker⟩, ?_⟩
  have hadvance := advanceCompiled_through (o := o) hmatched hcompiling hnext (hopen _)
    (Option.isSome_iff_exists.mpr ⟨key, htarget⟩) hbroker
  exact hadvance

theorem onCompileFinished_through (hmatched : Matched origin.workflow origin.task)
    (hcompiling : Compiling origin.workflow origin.task)
    (hstage : origin.workflow.nextStage? = some .compile) (hshows : system.Shows scene)
    (hopened : Opened origin key scene) (hbroker : system.broker = before.broker)
    {message : CompileFinished} (hmessage : message.workflowId = origin.workflow.id)
    (hsuccess : message.success = true) (hkey : message.key? = some key) :
    (o.onCompileFinished message).Through (Resumable origin key before) system
      fun _ final =>
        final.CarriedOn before origin.workflow.id ∧ final.Past origin.workflow.id := by
  have hworkflow := hopened.workflow
  have hpoint : Resumable origin key before system := Or.inl ⟨scene, hshows, hopened, hbroker⟩
  obtain ⟨artifact, hartifact, hown⟩ := Option.map_eq_some_iff.mp hkey
  unfold onCompileFinished
  rw [through_bind]
  apply through_findWorkflow hshows hpoint (by rw [hmessage, hworkflow])
  unfold Rest
  dsimp only
  rw [if_neg (by simp [hworkflow, hstage, Workflow.isRunning, hcompiling.running]),
    if_neg (by simp [hsuccess]), hartifact]
  dsimp only
  rw [through_bind]
  apply through_findTask hshows hpoint hshows.linked
  exact acceptArtifact_through hmatched hcompiling hshows hopened hbroker hown

end Orchestrator

namespace System

open Orchestrator

variable {o : Orchestrator} {start system mid final : System} {id : Uuid}

/-- An answer of the compiler that comes too late changes nothing. -/
theorem Past.dropped (hpast : mid.Past id) {message : CompileFinished}
    (hmessage : message.workflowId = id) {outcome : Except ServiceError Unit}
    (hruns : (o.onCompileFinished message).Runs mid outcome final) : final = mid := by
  obtain ⟨scene, hshows, rfl, hpast⟩ := hpast
  have hguard : (!scene.workflow.isRunning || scene.workflow.nextStage? ≠ some .compile) =
      true := by
    rcases hpast with hended | hprogress
    · simp [Workflow.isRunning, hended]
    · have hstage : scene.workflow.nextStage? ≠ some .compile := by
        intro hstage
        rw [(Workflow.nextStage?_eq_compile hstage).1] at hprogress
        exact absurd hprogress (Nat.lt_irrefl 0)
      simp [hstage]
  have hthrough : (o.onCompileFinished message).Through (fun _ => True) mid
      fun _ final => final = mid := by
    unfold onCompileFinished
    rw [Program.through_bind]
    apply Program.through_findWorkflow hshows trivial hmessage
    unfold Program.Rest
    dsimp only
    rw [if_pos hguard]
    rfl
  exact hthrough.runs hruns

/-- While a workflow waits for its compiler, a successful answer may be cut after any of its
calls and delivered again. The workflow is carried on then, just when the first delivery has
left it at its compile stage, or has carried it on already. -/
theorem redelivered_answer_carries_on_iff (hinitial : start.Initial)
    (hreach : Reaches o start system) {workflow : Workflow}
    (hstored : system.store.workflows.get? id = some workflow)
    (hrunning : workflow.status = .running) (hstage : workflow.nextStage? = some .compile)
    {message : CompileFinished} (haccepted : message.Accepted id)
    (hcut : (o.process (.compile message)).Cut system mid)
    {outcome : Except ServiceError Unit}
    (hruns : (o.process (.compile message)).Runs mid outcome final) :
    final.CarriedOn system id ↔ mid.AtCompileStage id ∨ mid.CarriedOn system id := by
  obtain ⟨hsound, _⟩ := hinitial.reaches hreach
  have hid := hsound.keyed.workflows id workflow hstored
  obtain ⟨origin, rfl, hshows, hmatched, hphase⟩ := hsound.scene hstored
  have hcompiling := compiling_of_stage hmatched hphase hrunning hstage
  obtain ⟨key, hkey⟩ := haccepted.key
  rw [← hid] at haccepted ⊢
  have hopened : Opened origin key origin :=
    ⟨rfl, rfl, rfl, Or.inl hcompiling.target, hcompiling.snapshot, hcompiling.unclaimed⟩
  have hthrough := onCompileFinished_through (o := o) hmatched hcompiling hstage hshows hopened rfl
    haccepted.workflowId haccepted.success hkey
  rcases hthrough.cut hcut (Or.inl ⟨origin, hshows, hopened, rfl⟩) with
    ⟨scene, hscene, hopen, hbroker⟩ | hpast
  · have hagain := onCompileFinished_through (o := o) hmatched hcompiling hstage hscene hopen
      hbroker haccepted.workflowId haccepted.success hkey
    have hstill : mid.AtCompileStage origin.workflow.id := by
      refine ⟨origin.workflow, ?_, hrunning, hstage⟩
      rw [← hopen.workflow]
      exact hscene.workflow
    exact ⟨fun _ => Or.inl hstill, fun _ => (hagain.runs hruns).1⟩
  · rw [hpast.dropped haccepted.workflowId hruns]
    exact ⟨Or.inr, fun hmid => hmid.resolve_left hpast.not_atCompileStage⟩

def interrupted (calls : Nat) : System :=
  ((smallOrchestrator.process (.compile (compiledAs "shop.jar"))).solo quietWorld calls
    (submitted .compileSa)).2

def redelivered (calls : Nat) : System :=
  ((smallOrchestrator.process (.compile (compiledAs "shop.jar"))).run quietWorld
    (interrupted calls)).2

/-- The scan is carried on if its answer has been cut before the workflow was advanced. -/
theorem answer_resumed_before_advance :
    ∃ workflow, (submitted .compileSa).store.workflows.get? (Uuid.generated 3) = some workflow ∧
      workflow.status = .running ∧ workflow.nextStage? = some .compile ∧
        (redelivered 7).CarriedOn (submitted .compileSa) (Uuid.generated 3) := by
  have hstate : ((submitted .compileSa).store.workflows.get? (Uuid.generated 3)).map
      (fun workflow => (workflow.status, workflow.nextStage?)) =
        some (.running, some .compile) := by
    decide +kernel
  obtain ⟨workflow, hstored, hsame⟩ := Option.map_eq_some_iff.mp hstate
  obtain ⟨hrunning, hstage⟩ := Prod.mk.inj hsame
  have hmid : ((interrupted 7).store.workflows.get? (Uuid.generated 3)).map
      (fun workflow => (workflow.status, workflow.nextStage?)) =
        some (.running, some .compile) := by
    decide +kernel
  obtain ⟨waiting, hwaiting, hsame⟩ := Option.map_eq_some_iff.mp hmid
  obtain ⟨hwaits, hcompiles⟩ := Prod.mk.inj hsame
  refine ⟨workflow, hstored, hrunning, hstage, ?_⟩
  apply (redelivered_answer_carries_on_iff initial_empty (reaches_submitted .compileSa) hstored
    hrunning hstage ⟨rfl, rfl, _, accepts_compiledAs⟩ (Program.cut_solo quietWorld 7 _ _)
    (runs_quietly _ _)).mpr
  exact Or.inl ⟨waiting, hwaiting, hwaits, hcompiles⟩

/-- Cut after the workflow was advanced, the answer is lost: the scan runs on, its compile
stage is over, no rules are bound, and no engine has been asked. -/
theorem answer_lost_after_advance :
    Reaches smallOrchestrator .empty (submitted .compileSa) ∧
      ((submitted .compileSa).store.workflows.get? (Uuid.generated 3)).map
          (fun workflow => (workflow.status, workflow.nextStage?)) =
        some (.running, some .compile) ∧
      (compiledAs "shop.jar").Accepted (Uuid.generated 3) ∧
      (smallOrchestrator.process (.compile (compiledAs "shop.jar"))).Cut (submitted .compileSa)
        (interrupted 8) ∧
      (smallOrchestrator.process (.compile (compiledAs "shop.jar"))).Runs (interrupted 8)
        (.ok ()) (redelivered 8) ∧
      ((redelivered 8).store.workflows.get? (Uuid.generated 3)).map
          (fun workflow => (workflow.status, workflow.nextStage?, workflow.taskId)) =
        some (.running, some .analysis, Uuid.generated 2) ∧
      ((redelivered 8).store.tasks.get? (Uuid.generated 2)).map
          (fun task => (task.sa.status, task.snapshot.isSome)) = some (.pending, false) ∧
      (redelivered 8).broker.length .saEngine = 0 ∧
      ¬ (redelivered 8).CarriedOn (submitted .compileSa) (Uuid.generated 3) := by
  have hworkflow : ((redelivered 8).store.workflows.get? (Uuid.generated 3)).map
      (fun workflow => (workflow.status, workflow.nextStage?, workflow.taskId)) =
        some (.running, some .analysis, Uuid.generated 2) := by
    decide +kernel
  have htask : ((redelivered 8).store.tasks.get? (Uuid.generated 2)).map
      (fun task => (task.sa.status, task.snapshot.isSome)) = some (.pending, false) := by
    decide +kernel
  refine ⟨reaches_submitted .compileSa, ?_, ⟨rfl, rfl, _, accepts_compiledAs⟩,
    Program.cut_solo quietWorld 8 _ _, runs_quietly _ _, hworkflow, htask, ?_, ?_⟩
  · decide +kernel
  · decide +kernel
  · rintro ⟨workflow, hstored, hcarried⟩
    rw [hstored] at hworkflow
    simp only [Option.map_some, Option.some.injEq, Prod.mk.injEq] at hworkflow
    obtain ⟨hrunning, _, hlinked⟩ := hworkflow
    rcases hcarried with hended | ⟨task, hfound, _, snapshot, _, _, hsnapshot, _⟩
    · exact hended hrunning
    · rw [← hlinked, hfound] at htask
      simp [hsnapshot] at htask

end System

end ScanFlow
