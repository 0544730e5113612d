import ScanFlow.Orchestrator.Settle
import ScanFlow.Proofs.Lifecycle.Phase
import ScanFlow.Proofs.Program.Alone

/-!
What a dispatch does to the workflow and the task it is about.

The dispatch of the analysis either binds everything and starts the engine runs, or ends
the workflow, or fails and leaves the workflow to its caller, who ends it then.
-/

namespace ScanFlow

def EngineRequest.workflowId : EngineRequest → Uuid
  | compile request => request.workflowId
  | saAnalyze request => request.workflowId
  | mlAnalyze request => request.workflowId

end ScanFlow

namespace ScanFlow.Orchestrator

open Program

variable {o : Orchestrator} {scene : Scene} {workflow : Workflow} {now : Timestamp}

/-! ### Ends of the dispatch of an analysis -/

/-- Where an abortion ends. -/
def giveUp (workflow : Workflow) : Program DispatchOutcome := do
  let _ ← Program.store (.finish workflow.id .aborted)
  return .aborted

/-- What is left of an abortion once the static analysis has been ended. -/
def abortRest (workflow : Workflow) (task : Task) (kind : Task.Kind) (now : Timestamp) :
    Program DispatchOutcome := do
  if kind.includesMl && !task.ml.status.isTerminal then
    let ml ← Program.ofExcept (task.ml.finished false none now)
    let _ ← Program.store (.moveMl task.id task.ml.status ml)
  let _ ← Program.store (.finish workflow.id .aborted)
  return .aborted

/-- What is left of a dispatch once the runs have been started: binding, and asking. -/
def bindAndSend (workflow : Workflow) (task : Task) (kind : Task.Kind)
    (snapshot : TemplateSnapshot) (url : String) (sa : SaRun) (ml : MlRun) :
    Program DispatchOutcome := do
  if ← Program.store (.bindAnalysis task.id { kind, snapshot, sa, ml }) then
    let requests := analysisRequests kind
      { workflowId := workflow.id
        taskId := task.id
        source := url
        filename := task.targetName
        rules := snapshot.rules
        maxMemory := workflow.limits.maxMemoryGb
        timeout := workflow.limits.timeoutMinutes }
    requests.forM fun request => do
      let _ ← Program.sendRequest request
    return .dispatched (requests.map EngineRequest.queue)
  else return .alreadyDispatched

/-- The runs with which an analysis begins: those of the engines that are asked are started. -/
def startedRuns (task : Task) (kind : Task.Kind) (now : Timestamp) :
    Except ServiceError (SaRun × MlRun) :=
  (if kind.includesSa then task.sa.started now else .ok task.sa) >>= fun sa =>
    (if kind.includesMl then task.ml.started now else .ok task.ml) >>= fun ml => .ok (sa, ml)

/-- With an artifact, an analysis is a link to it, the runs, and what is left then. -/
theorem requestAnalysis_eq {task : Task} {key : String} (hkey : task.targetKey = some key)
    (kind : Task.Kind) (snapshot : TemplateSnapshot) :
    o.requestAnalysis workflow task kind snapshot =
      Program.blobUrl key o.urlLifetime >>= fun url => Program.clock >>= fun now =>
        Program.ofExcept (startedRuns task kind now) >>= fun runs =>
          bindAndSend workflow task kind snapshot url runs.1 runs.2 := by
  unfold requestAnalysis startedRuns
  rw [hkey]
  dsimp only
  congr 1
  funext url
  congr 1
  funext now
  cases kind.includesSa with
  | true =>
    cases task.sa.started now with
    | error e => rfl
    | ok sa =>
      cases kind.includesMl with
      | true => cases task.ml.started now <;> rfl
      | false => rfl
  | false =>
    cases kind.includesMl with
    | true => cases task.ml.started now <;> rfl
    | false => rfl

/-- The runs that a dispatch binds: those of the engines that it asks have been started, and the
others are as they were. -/
structure Binds (kind : Task.Kind) (task : Task) (sa : SaRun) (ml : MlRun) : Prop where
  sa : if kind.includesSa then ∃ now, task.sa.started now = .ok sa else sa = task.sa
  ml : if kind.includesMl then ∃ now, task.ml.started now = .ok ml else ml = task.ml

theorem startedRuns_binds {task : Task} {kind : Task.Kind} {runs : SaRun × MlRun}
    (h : startedRuns task kind now = .ok runs) : Binds kind task runs.1 runs.2 := by
  unfold startedRuns at h
  obtain ⟨sa, hsa, h⟩ := ok_of_bind h
  obtain ⟨ml, hml, h⟩ := ok_of_bind h
  cases h
  refine ⟨?_, ?_⟩
  · split at hsa
    · rename_i hincludes
      rw [if_pos hincludes]
      exact ⟨now, hsa⟩
    · rename_i hexcludes
      rw [if_neg hexcludes]
      exact (Except.ok.inj hsa).symm
  · split at hml
    · rename_i hincludes
      rw [if_pos hincludes]
      exact ⟨now, hml⟩
    · rename_i hexcludes
      rw [if_neg hexcludes]
      exact (Except.ok.inj hml).symm

theorem startedRuns_error {task : Task} {kind : Task.Kind} {e : ServiceError}
    (h : startedRuns task kind now = .error e) :
    task.sa.started now = .error e ∨ task.ml.started now = .error e := by
  unfold startedRuns at h
  rcases error_of_bind h with hsa | ⟨sa, _, hrest⟩
  · split at hsa
    · exact Or.inl hsa
    · cases hsa
  rcases error_of_bind hrest with hml | ⟨ml, _, hlast⟩
  · split at hml
    · exact Or.inr hml
    · cases hml
  · cases hlast

namespace Binds

variable {kind : Task.Kind} {task : Task} {sa : SaRun} {ml : MlRun}

theorem sa_running (h : Binds kind task sa ml) (hincludes : kind.includesSa = true) :
    sa.status = .running := by
  have hsa := h.sa
  rw [if_pos hincludes] at hsa
  obtain ⟨now, hstarted⟩ := hsa
  rw [(SaRun.started_eq_ok hstarted).2]

theorem ml_running (h : Binds kind task sa ml) (hincludes : kind.includesMl = true) :
    ml.status = .running := by
  have hml := h.ml
  rw [if_pos hincludes] at hml
  obtain ⟨now, hstarted⟩ := hml
  rw [(MlRun.started_eq_ok hstarted).2]

theorem sa_resultIds (h : Binds kind task sa ml) : sa.resultIds = task.sa.resultIds := by
  have hsa := h.sa
  split at hsa
  · obtain ⟨now, hstarted⟩ := hsa
    rw [(SaRun.started_eq_ok hstarted).2]
  · rw [hsa]

theorem sa_open (h : Binds kind task sa ml) (hopen : task.sa.status.isTerminal = false) :
    sa.status.isTerminal = false := by
  have hsa := h.sa
  split at hsa
  · obtain ⟨now, hstarted⟩ := hsa
    rw [(SaRun.started_eq_ok hstarted).2]
    rfl
  · rw [hsa]
    exact hopen

/-- A run that has ended cannot be started, so it is bound as it is. -/
theorem sa_of_terminal (h : Binds kind task sa ml) (hterminal : task.sa.status.isTerminal = true) :
    sa = task.sa := by
  have hsa := h.sa
  split at hsa
  · obtain ⟨now, hstarted⟩ := hsa
    rw [RunStatus.open_of_canBecome (SaRun.started_eq_ok hstarted).1] at hterminal
    cases hterminal
  · exact hsa

theorem ml_of_terminal (h : Binds kind task sa ml) (hterminal : task.ml.status.isTerminal = true) :
    ml = task.ml := by
  have hml := h.ml
  split at hml
  · obtain ⟨now, hstarted⟩ := hml
    rw [RunStatus.open_of_canBecome (MlRun.started_eq_ok hstarted).1] at hterminal
    cases hterminal
  · exact hml

end Binds

/-! ### Alone -/

/-- The workflow after an abortion, which changes nothing of one that has ended. -/
def abortedAt (now : Timestamp) (workflow : Workflow) : Workflow :=
  (workflow.finished? .aborted now).getD workflow

theorem abortedAt_status (hopen : workflow.status ≠ .complete) :
    (abortedAt now workflow).status = .aborted := by
  unfold abortedAt Workflow.finished?
  cases hstatus : workflow.status with
  | running => rfl
  | complete => exact absurd hstatus hopen
  | aborted => exact hstatus

theorem abortedAt_fixed : (abortedAt now workflow).fixed = workflow.fixed := by
  apply Store.Operation.getD_keeps Workflow.fixed
  intro next hnext
  rw [(Workflow.finished?_eq_some hnext).2]
  rfl

structure CopyOf (scene : Scene) (workflow : Workflow) : Prop where
  id : workflow.id = scene.workflow.id
  taskId : workflow.taskId = scene.task.id
  shape : workflow.shape = scene.workflow.shape

structure Started (shape : Shape) (task : Task) : Prop where
  dispatched : Dispatched shape task
  sa : shape.runsSa = true → task.sa.status = .running
  ml : shape.runsMl = true → task.ml.status = .running

structure AnalysisDispatched (scene : Scene) (outcome : Except ServiceError DispatchOutcome)
    (reached : Scene) : Prop where
  kind : reached.task.kind = scene.task.kind
  effect :
    match outcome with
    | .ok (.dispatched _) =>
      reached.workflow = scene.workflow ∧ scene.task.targetKey.isSome ∧
        Started scene.workflow.shape reached.task
    | .ok .aborted => ∃ now, reached.workflow = abortedAt now scene.workflow
    | .ok .alreadyDispatched => False
    | .error _ => reached.workflow = scene.workflow

theorem captureRules_alone (workflow : Workflow)
    {post : Except ServiceError (Option TemplateSnapshot) → Unit → Scene → Prop}
    (h : ∀ outcome, post outcome () scene) :
    (captureRules workflow).Keeps alone () scene post := by
  unfold captureRules
  split
  · exact h _
  · rw [keeps_bind]
    refine alone_store trivial ?_
    intro _ template _
    cases template with
    | none => exact h _
    | some template =>
      change (Program.store _ >>= _).Keeps _ _ _ _
      rw [keeps_bind]
      refine alone_store trivial ?_
      intro _ rules _
      unfold Follows
      dsimp only
      split
      · exact h _
      · rw [keeps_bind]
        apply alone_clock
        intro _
        exact h _

theorem dispatchCompile_alone (workflow : Workflow)
    {post : Except ServiceError DispatchOutcome → Unit → Scene → Prop}
    (hok : ∀ queues nextNumber, post (.ok (.dispatched queues)) () { scene with nextNumber })
    (herror : ∀ e nextNumber, post (.error e) () { scene with nextNumber }) :
    (o.dispatchCompile workflow).Keeps alone () scene post := by
  unfold dispatchCompile
  rw [keeps_bind]
  refine alone_require trivial ?_ fun _ _ => herror _ scene.nextNumber
  intro _ code _
  change Keeps _ (_ >>= _) _ _ _
  rw [keeps_bind]
  refine alone_require trivial ?_ fun _ _ => herror _ scene.nextNumber
  intro _ source _
  change Keeps _ (_ >>= _) _ _ _
  rw [keeps_bind]
  refine alone_blobUrl ?_ fun _ => herror _ scene.nextNumber
  intro url
  change Keeps _ (_ >>= _) _ _ _
  rw [keeps_bind]
  apply alone_sendRequest
  intro outcome nextNumber
  cases outcome with
  | ok _ => exact hok _ nextNumber
  | error e => exact herror e nextNumber

structure SameCourse (scene met : Scene) : Prop where
  workflow : met.workflow = scene.workflow
  id : met.task.id = scene.task.id
  kind : met.task.kind = scene.task.kind

theorem SameCourse.refl : SameCourse scene scene := ⟨rfl, rfl, rfl⟩

theorem SameCourse.changed {met : Scene} {next? : Option Task} (h : SameCourse scene met)
    (hnext : ∀ next, next? = some next →
      next.id = met.task.id ∧ next.kind = met.task.kind) :
    SameCourse scene { met with task := next?.getD met.task } where
  workflow := h.workflow
  id := (Store.Operation.getD_keeps Task.id fun next hn => (hnext next hn).1).trans h.id
  kind := (Store.Operation.getD_keeps Task.kind fun next hn => (hnext next hn).2).trans h.kind

theorem SameCourse.withSa {met : Scene} (h : SameCourse scene met) (expected : RunStatus)
    (sa : SaRun) :
    SameCourse scene { met with task := (met.task.withSa? expected sa now).getD met.task } := by
  apply h.changed
  intro next hnext
  rw [(Task.withSa?_eq_some hnext).2]
  exact ⟨rfl, rfl⟩

theorem SameCourse.withMl {met : Scene} (h : SameCourse scene met) (expected : RunStatus)
    (ml : MlRun) :
    SameCourse scene { met with task := (met.task.withMl? expected ml now).getD met.task } := by
  apply h.changed
  intro next hnext
  rw [(Task.withMl?_eq_some hnext).2]
  exact ⟨rfl, rfl⟩

theorem SameCourse.failed {met : Scene} (h : SameCourse scene met) (e : ServiceError) :
    AnalysisDispatched scene (.error e) met :=
  ⟨h.kind, h.workflow⟩

theorem giveUp_alone {met : Scene} (hcopy : CopyOf scene workflow) (hmet : SameCourse scene met) :
    (giveUp workflow).Keeps alone () met
      fun outcome _ reached => AnalysisDispatched scene outcome reached := by
  have hid : workflow.id = met.workflow.id := hmet.workflow ▸ hcopy.id
  rw [giveUp, keeps_bind]
  refine alone_store hid ?_
  intro now _ _
  rw [Scene.after_workflowChange (by rw [hid]; rfl)]
  exact ⟨hmet.kind, now, by rw [hmet.workflow]; rfl⟩

theorem abortRest_alone {met : Scene} (hcopy : CopyOf scene workflow) (kind : Task.Kind)
    (now : Timestamp) (hmet : SameCourse scene met) :
    (abortRest workflow scene.task kind now).Keeps alone () met
      fun outcome _ reached => AnalysisDispatched scene outcome reached := by
  unfold abortRest
  dsimp only
  split
  · rw [keeps_bind, keeps_ofExcept]
    cases scene.task.ml.finished false none now with
    | error e => exact hmet.failed e
    | ok ml =>
      change Keeps _ (_ >>= _) _ _ _
      rw [keeps_bind]
      apply alone_moveMl hmet.id.symm
      intro _
      exact giveUp_alone hcopy (hmet.withMl _ ml)
  · exact giveUp_alone hcopy hmet

theorem abortWithoutRules_alone (hcopy : CopyOf scene workflow) (kind : Task.Kind) :
    (abortWithoutRules workflow scene.task kind).Keeps alone () scene
      fun outcome _ reached => AnalysisDispatched scene outcome reached := by
  unfold abortWithoutRules
  rw [keeps_bind]
  apply alone_clock
  intro now
  unfold Follows
  dsimp only
  split
  · rw [keeps_bind, keeps_ofExcept]
    cases scene.task.sa.finished false [] 0 now with
    | error e => exact SameCourse.refl.failed e
    | ok sa =>
      change Keeps _ (_ >>= _) _ _ _
      rw [keeps_bind]
      apply alone_moveSa rfl
      intro _
      exact abortRest_alone hcopy kind now (SameCourse.refl.withSa _ sa)
  · exact abortRest_alone hcopy kind now SameCourse.refl

theorem sendAll_alone (requests : List EngineRequest)
    {post : Except ServiceError PUnit → Unit → Scene → Prop}
    (h : ∀ outcome nextNumber, post outcome () { scene with nextNumber }) :
    (requests.forM fun request => do
      let _ ← Program.sendRequest request).Keeps alone () scene post := by
  induction requests generalizing scene with
  | nil => exact h _ scene.nextNumber
  | cons request rest ih =>
    change ((Program.sendRequest request >>= fun _ => pure PUnit.unit) >>= fun _ =>
      rest.forM _).Keeps _ _ _ _
    rw [keeps_bind, keeps_bind]
    apply alone_sendRequest
    intro outcome nextNumber
    cases outcome with
    | error e => exact h _ nextNumber
    | ok _ => exact ih fun outcome nextNumber => h outcome nextNumber

/-- Binding starts the engine runs that the kind asks for, provided that they have been started. -/
theorem bindAndSend_alone {kind : Task.Kind} (snapshot : TemplateSnapshot) (url : String)
    {sa : SaRun} {ml : MlRun} (hkind : scene.task.kind = some kind)
    (hshape : scene.workflow.shape.taskKind? = some kind)
    (hsnapshot : scene.task.snapshot = none) (hclaim : scene.task.mergeClaimed = false)
    (htarget : scene.task.targetKey.isSome)
    (hsaRunning : kind.includesSa = true → sa.status = .running)
    (hmlRunning : kind.includesMl = true → ml.status = .running) :
    (bindAndSend workflow scene.task kind snapshot url sa ml).Keeps alone () scene
      fun outcome _ reached => AnalysisDispatched scene outcome reached := by
  have hsa : kind.includesSa = scene.workflow.shape.runsSa := by
    rw [← Shape.taskKind?_includesSa, hshape]
    rfl
  have hml : kind.includesMl = scene.workflow.shape.runsMl := by
    rw [← Shape.taskKind?_includesMl, hshape]
    rfl
  unfold bindAndSend
  rw [keeps_bind]
  apply alone_bindAnalysis rfl
  intro now
  simp only [Task.withAnalysis?, hsnapshot, Option.isSome_none, Bool.false_eq_true, if_false,
    Option.isSome_some, Option.getD_some, Follows, if_true]
  rw [keeps_bind]
  apply sendAll_alone _
  intro outcome nextNumber
  cases outcome with
  | error e => exact ⟨hkind.symm, rfl⟩
  | ok _ =>
    refine ⟨hkind.symm, rfl, htarget, ?_, ?_, ?_⟩
    · refine ⟨htarget, rfl, ?_, ?_, hclaim⟩
      · intro hruns
        simp [hsaRunning (hsa.trans hruns)]
      · intro hruns
        simp [hmlRunning (hml.trans hruns)]
    · exact fun hruns => hsaRunning (hsa.trans hruns)
    · exact fun hruns => hmlRunning (hml.trans hruns)

theorem requestAnalysis_alone {kind : Task.Kind} (snapshot : TemplateSnapshot)
    (hkind : scene.task.kind = some kind)
    (hshape : scene.workflow.shape.taskKind? = some kind)
    (hsnapshot : scene.task.snapshot = none) (hclaim : scene.task.mergeClaimed = false) :
    (o.requestAnalysis workflow scene.task kind snapshot).Keeps alone () scene
      fun outcome _ reached => AnalysisDispatched scene outcome reached := by
  have hfail : ∀ e : ServiceError, AnalysisDispatched scene (.error e) scene :=
    SameCourse.refl.failed
  cases hkey : scene.task.targetKey with
  | none =>
    rw [requestAnalysis, hkey]
    exact hfail _
  | some key =>
    rw [requestAnalysis_eq hkey, keeps_bind]
    refine alone_blobUrl ?_ hfail
    intro url
    change Keeps _ (_ >>= _) _ _ _
    rw [keeps_bind]
    apply alone_clock
    intro now
    change Keeps _ (_ >>= _) _ _ _
    rw [keeps_bind, keeps_ofExcept]
    cases hruns : startedRuns scene.task kind now with
    | error e => exact hfail e
    | ok runs =>
      have hbinds := startedRuns_binds hruns
      exact bindAndSend_alone snapshot url hkind hshape hsnapshot hclaim (by simp [hkey])
        hbinds.sa_running hbinds.ml_running

theorem dispatchAnalysis_alone (hcopy : CopyOf scene workflow)
    (hkind : scene.task.kind = scene.workflow.shape.taskKind?)
    (hsnapshot : scene.task.snapshot = none) (hclaim : scene.task.mergeClaimed = false) :
    (o.dispatchAnalysis workflow).Keeps alone () scene
      fun outcome _ reached => AnalysisDispatched scene outcome reached := by
  have hfail : ∀ e : ServiceError, AnalysisDispatched scene (.error e) scene :=
    fun _ => ⟨rfl, rfl⟩
  unfold dispatchAnalysis
  rw [keeps_bind]
  apply alone_task hcopy.taskId
  unfold Follows
  dsimp only
  rw [if_neg (by simp [hsnapshot]), hcopy.shape]
  cases hshape : scene.workflow.shape.taskKind? with
  | none => exact hfail _
  | some kind =>
    dsimp only
    rw [keeps_bind]
    apply captureRules_alone workflow
    intro outcome
    cases outcome with
    | error e => exact hfail e
    | ok captured =>
      cases captured with
      | none => exact abortWithoutRules_alone hcopy kind
      | some snapshot =>
        exact requestAnalysis_alone snapshot (hkind.trans hshape) hshape hsnapshot hclaim

/-- The effect of going on to the analysis: the workflow ends, or the analysis has begun. -/
def AnalysisChained (scene reached : Scene) : Prop :=
  reached.task.kind = scene.task.kind ∧
    ((∃ now, reached.workflow = abortedAt now scene.workflow) ∨
      reached.workflow = scene.workflow ∧ scene.task.targetKey.isSome ∧
        Started scene.workflow.shape reached.task)

theorem chain_alone (scene : Scene) (hcopy : CopyOf scene workflow)
    (hrunning : workflow.status = .running)
    (hstage : workflow.nextStage? = some .analysis)
    (hkind : scene.task.kind = scene.workflow.shape.taskKind?)
    (hsnapshot : scene.task.snapshot = none) (hclaim : scene.task.mergeClaimed = false) :
    (o.chain workflow).Keeps alone () scene fun _ _ reached => AnalysisChained scene reached := by
  unfold chain
  rw [if_neg (by simp [Workflow.isRunning, hrunning]), hstage]
  dsimp only
  rw [keeps_bind, keeps_attempt]
  apply keeps_mono (dispatchAnalysis_alone hcopy hkind hsnapshot hclaim)
  intro outcome _ reached heffect
  have hresult := heffect.effect
  cases outcome with
  | error e =>
    have hworkflow : reached.workflow = scene.workflow := hresult
    apply alone_finish (by rw [hcopy.id, hworkflow])
    intro now
    exact ⟨heffect.kind, Or.inl ⟨now, by rw [hworkflow]; rfl⟩⟩
  | ok done =>
    cases done with
    | dispatched queues => exact ⟨heffect.kind, Or.inr hresult⟩
    | aborted => exact ⟨heffect.kind, Or.inl hresult⟩
    | alreadyDispatched => exact hresult.elim

/-! ### The calls of a dispatch -/

/-- The calls that a dispatch can make: it writes to the engine runs, binds the analysis, or
aborts the workflow. -/
def Dispatching {β : Type} (call : Call β) : Prop :=
  match call with
  | .clock | .publish _ _ | .blobUrl _ _ => True
  | .store (.findTask _) | .store (.findTemplate _) | .store (.activeRules _) => True
  | .store (.findCode _) | .store (.findFile _) => True
  | .store (.moveSa _ _ _) | .store (.moveMl _ _ _) | .store (.bindAnalysis _ _) => True
  | .store (.finish _ status) => status = .aborted
  | _ => False

theorem captureRules_only {allowed : {β : Type} → Call β → Prop} (workflow : Workflow)
    (htemplate : ∀ id, allowed (.store (.findTemplate id)))
    (hrules : ∀ id, allowed (.store (.activeRules id))) (hclock : allowed .clock) :
    (captureRules workflow).Only allowed := by
  unfold captureRules
  split
  · trivial
  · apply only_bind (only_ask (htemplate _))
    intro template
    cases template with
    | none => trivial
    | some template =>
      apply only_bind (only_ask (hrules _))
      intro rules
      split
      · trivial
      · exact only_bind (only_ask hclock) fun _ => trivial

/-- Only runs that can be ended are ended with the workflow. -/
theorem abortWithoutRules_only {allowed : {β : Type} → Call β → Prop} (workflow : Workflow)
    (task : Task) (kind : Task.Kind) (hclock : allowed .clock)
    (hsa : ∀ now next, task.sa.finished false [] 0 now = .ok next →
      allowed (.store (.moveSa task.id task.sa.status next)))
    (hml : ∀ now next, task.ml.finished false none now = .ok next →
      allowed (.store (.moveMl task.id task.ml.status next)))
    (hfinish : allowed (.store (.finish workflow.id .aborted))) :
    (abortWithoutRules workflow task kind).Only allowed := by
  have hends : (giveUp workflow).Only allowed := only_bind (only_ask hfinish) fun _ => trivial
  unfold abortWithoutRules
  apply only_bind (only_ask hclock)
  intro now
  have hrest : (abortRest workflow task kind now).Only allowed := by
    unfold abortRest
    dsimp only
    split
    · apply only_ofExcept
      intro ml hfinished
      exact only_bind (only_ask (hml now ml hfinished)) fun _ => hends
    · exact hends
  dsimp only
  split
  · apply only_ofExcept
    intro sa hfinished
    exact only_bind (only_ask (hsa now sa hfinished)) fun _ => hrest
  · exact hrest

theorem analysisRequests_about {kind : Task.Kind} {analysis : AnalysisRequest}
    {request : EngineRequest} (member : request ∈ analysisRequests kind analysis) :
    request.workflowId = analysis.workflowId := by
  unfold analysisRequests at member
  rcases List.mem_append.mp member with member | member
  · split at member
    · rw [List.mem_singleton.mp member]
      rfl
    · cases member
  · split at member
    · rw [List.mem_singleton.mp member]
      rfl
    · cases member

theorem sendAll_only {allowed : {β : Type} → Call β → Prop} (requests : List EngineRequest)
    (hpublish : ∀ request ∈ requests, allowed (.publish request.queue request.toJson)) :
    (requests.forM fun request => do
      let _ ← Program.sendRequest request).Only allowed := by
  induction requests with
  | nil => trivial
  | cons request rest ih =>
    have hfirst := hpublish request List.mem_cons_self
    refine only_bind (only_bind (only_sendRequest hfirst) fun _ => trivial) fun _ => ih ?_
    exact fun request member => hpublish request (List.mem_cons_of_mem _ member)

/-- A dispatch binds runs that have been started, and asks engines about its own workflow. -/
theorem requestAnalysis_only {allowed : {β : Type} → Call β → Prop} (workflow : Workflow)
    (task : Task) (kind : Task.Kind) (snapshot : TemplateSnapshot) (hclock : allowed .clock)
    (hurl : ∀ key lifetime, allowed (.blobUrl key lifetime))
    (hbind : ∀ sa ml, Binds kind task sa ml →
      allowed (.store (.bindAnalysis task.id { kind, snapshot, sa, ml })))
    (hask : ∀ request : EngineRequest, request.workflowId = workflow.id →
      allowed (.publish request.queue request.toJson)) :
    (o.requestAnalysis workflow task kind snapshot).Only allowed := by
  cases hkey : task.targetKey with
  | none =>
    rw [requestAnalysis, hkey]
    trivial
  | some key =>
    rw [requestAnalysis_eq hkey]
    refine only_bind (only_blobUrl (hurl _ _)) fun url => ?_
    refine only_bind (only_ask hclock) fun now => ?_
    refine only_ofExcept fun runs hruns => ?_
    refine only_bind (only_ask (hbind _ _ (startedRuns_binds hruns))) fun bound => ?_
    split
    · refine only_bind (sendAll_only _ fun request member => hask request ?_) fun _ => trivial
      rw [analysisRequests_about member]
    · trivial

section Calls

variable {allowed : {β : Type} → Call β → Prop} (workflow : Workflow)
  (hstore : ∀ {β : Type} (operation : Store.Operation β), Dispatching (.store operation) →
    allowed (.store operation))
  (hclock : allowed .clock) (hurl : ∀ key lifetime, allowed (.blobUrl key lifetime))
  (hask : ∀ request : EngineRequest, request.workflowId = workflow.id →
    allowed (.publish request.queue request.toJson))
include hstore hclock hurl hask

/-- A dispatch asks engines about its own workflow only. -/
theorem dispatch_calls (stage : Stage) : (o.dispatch stage workflow).Only allowed := by
  cases stage with
  | compile =>
    refine only_bind (only_require (hstore _ trivial)) fun code => ?_
    refine only_bind (only_require (hstore _ trivial)) fun source => ?_
    refine only_bind (only_blobUrl (hurl _ _)) fun url => ?_
    exact only_bind (only_sendRequest (hask _ rfl)) fun _ => trivial
  | analysis =>
    refine only_bind (only_require (hstore _ trivial)) fun task => ?_
    split
    · trivial
    · split
      · trivial
      · have hcapture : (captureRules workflow).Only allowed :=
          captureRules_only workflow (fun _ => hstore _ trivial) (fun _ => hstore _ trivial) hclock
        apply only_bind hcapture
        intro captured
        cases captured with
        | none =>
          exact abortWithoutRules_only workflow task _ hclock (fun _ _ _ => hstore _ trivial)
            (fun _ _ _ => hstore _ trivial) (hstore _ rfl)
        | some snapshot =>
          exact requestAnalysis_only workflow task _ snapshot hclock hurl
            (fun _ _ _ => hstore _ trivial) hask

theorem chain_calls : (o.chain workflow).Only allowed := by
  unfold chain
  split
  · trivial
  · split
    · trivial
    · apply only_bind (only_attempt (dispatch_calls workflow hstore hclock hurl hask _))
      intro outcome
      cases outcome with
      | ok _ => trivial
      | error e => exact only_bind (only_ask (hstore _ rfl)) fun _ => trivial

end Calls

theorem chain_only (workflow : Workflow) : (o.chain workflow).Only Dispatching :=
  chain_calls workflow (fun _ hcall => hcall) trivial (fun _ _ => trivial) fun _ _ => trivial

end ScanFlow.Orchestrator
