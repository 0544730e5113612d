import ScanFlow.Orchestrator.Basic
import ScanFlow.Proofs.Program.Whole

/-!
The calls of services that run on their own, one rule for each call.

A rule names the answer and the scene that a call leads to. Calls that only read, or write
to nothing in the scene, lead to the same workflow and task.
-/

namespace ScanFlow.Program

variable {α : Type} {scene : Scene} {id : Uuid}

theorem alone_ask {request : Call α} {post : Except ServiceError α → Unit → Scene → Prop}
    (hwithin : request.Within scene)
    (h : ∀ env answer reached, request.Moves env scene answer reached →
      post (.ok answer) () reached) :
    (ask request).Keeps alone () scene post := by
  rintro met rfl env answer reached hmoves
  exact ⟨(), hwithin, h env answer reached hmoves⟩

theorem alone_clock {post : Except ServiceError Timestamp → Unit → Scene → Prop}
    (h : ∀ now, post (.ok now) () scene) : clock.Keeps alone () scene post := by
  refine alone_ask trivial ?_
  rintro env now reached rfl
  exact h now

theorem alone_reserve {count : Nat} {post : Except ServiceError Nat → Unit → Scene → Prop}
    (h : post (.ok scene.nextNumber) ()
      { scene with nextNumber := scene.nextNumber + count }) :
    (reserve count).Keeps alone () scene post := by
  refine alone_ask trivial ?_
  rintro env first reached ⟨rfl, rfl⟩
  exact h

theorem alone_newId {post : Except ServiceError Uuid → Unit → Scene → Prop}
    (h : ∀ id, post (.ok id) () { scene with nextNumber := scene.nextNumber + 1 }) :
    newId.Keeps alone () scene post := by
  rw [newId, keeps_bind]
  apply alone_reserve
  exact h _

theorem alone_store {operation : Store.Operation α}
    {post : Except ServiceError α → Unit → Scene → Prop}
    (hwithin : operation.Within scene)
    (h : ∀ now answer, operation.Answers now scene answer →
      post (.ok answer) () (scene.after now operation)) :
    (store operation).Keeps alone () scene post := by
  refine alone_ask hwithin ?_
  rintro env answer reached ⟨hanswer, rfl⟩
  exact h env.now answer hanswer

theorem alone_storeOr {operation : Store.Operation (Except StoreError α)}
    {post : Except ServiceError α → Unit → Scene → Prop}
    (hwithin : operation.Within scene)
    (hok : ∀ now a, operation.Answers now scene (.ok a) →
      post (.ok a) () (scene.after now operation))
    (herror : ∀ now e, operation.Answers now scene (.error e) →
      post (.error (.ofCauses [e.message])) () (scene.after now operation)) :
    (storeOr operation).Keeps alone () scene post := by
  rw [storeOr, keeps_bind]
  refine alone_ask hwithin ?_
  rintro env answer reached ⟨hanswer, rfl⟩
  cases answer with
  | ok a => exact hok env.now a hanswer
  | error e => exact herror env.now e hanswer

theorem alone_require {operation : Store.Operation (Option α)} {missing : ServiceError}
    {post : Except ServiceError α → Unit → Scene → Prop}
    (hwithin : operation.Within scene)
    (hsome : ∀ now a, operation.Answers now scene (some a) →
      post (.ok a) () (scene.after now operation))
    (hnone : ∀ now, operation.Answers now scene none →
      post (.error missing) () (scene.after now operation)) :
    (require operation missing).Keeps alone () scene post := by
  rw [require, keeps_bind]
  apply alone_store hwithin
  intro now answer hanswer
  cases answer with
  | some a => exact hsome now a hanswer
  | none => exact hnone now hanswer

/-! ### Workflows -/

theorem alone_findWorkflow
    {post : Except ServiceError (Option Workflow) → Unit → Scene → Prop}
    (hid : id = scene.workflow.id) (h : post (.ok (some scene.workflow)) () scene) :
    (store (.findWorkflow id)).Keeps alone () scene post := by
  refine alone_store trivial ?_
  intro now answer hanswer
  rw [hanswer hid]
  exact h

theorem alone_advance {moment : Timestamp}
    {post : Except ServiceError (Option Workflow) → Unit → Scene → Prop}
    (hid : id = scene.workflow.id)
    (h : post (.ok (scene.workflow.advanced? moment)) ()
      { scene with workflow := (scene.workflow.advanced? moment).getD scene.workflow }) :
    (store (.advance id moment)).Keeps alone () scene post := by
  refine alone_store hid ?_
  intro now answer hanswer
  rw [hanswer hid]
  subst hid
  rw [Scene.after_workflowChange rfl]
  exact h

theorem alone_finish {status : Workflow.Status}
    {post : Except ServiceError Unit → Unit → Scene → Prop}
    (hid : id = scene.workflow.id)
    (h : ∀ now, post (.ok ()) ()
      { scene with workflow := (scene.workflow.finished? status now).getD scene.workflow }) :
    (finish id status).Keeps alone () scene post := by
  rw [finish, keeps_bind]
  refine alone_store hid ?_
  intro now answer _
  subst hid
  rw [Scene.after_workflowChange rfl]
  exact h now

/-! ### Tasks -/

theorem alone_findTask {post : Except ServiceError (Option Task) → Unit → Scene → Prop}
    (hid : id = scene.task.id) (h : post (.ok (some scene.task)) () scene) :
    (store (.findTask id)).Keeps alone () scene post := by
  refine alone_store trivial ?_
  intro now answer hanswer
  rw [hanswer.1 hid]
  exact h

theorem alone_task {post : Except ServiceError Task → Unit → Scene → Prop}
    (hid : id = scene.task.id) (h : post (.ok scene.task) () scene) :
    (task id).Keeps alone () scene post := by
  refine alone_require trivial ?_ ?_
  · intro now task hanswer
    cases hanswer.1 hid
    exact h
  · intro now hanswer
    cases hanswer.1 hid

theorem alone_setArtifact {name key : String} {saProgress : Option Nat}
    {post : Except ServiceError Bool → Unit → Scene → Prop} (hid : id = scene.task.id)
    (h : ∀ now, post (.ok (scene.task.withArtifact? name key saProgress now).isSome) ()
      { scene with
        task := (scene.task.withArtifact? name key saProgress now).getD scene.task }) :
    (storeOr (.setArtifact id name key saProgress)).Keeps alone () scene post := by
  refine alone_storeOr hid ?_ ?_
  · intro now changed hanswer
    cases hanswer hid
    subst hid
    rw [Scene.after_taskChange rfl]
    exact h now
  · intro now e hanswer
    cases hanswer hid

theorem alone_bindAnalysis {binding : AnalysisBinding}
    {post : Except ServiceError Bool → Unit → Scene → Prop} (hid : id = scene.task.id)
    (h : ∀ now, post (.ok (scene.task.withAnalysis? binding now).isSome) ()
      { scene with task := (scene.task.withAnalysis? binding now).getD scene.task }) :
    (store (.bindAnalysis id binding)).Keeps alone () scene post := by
  refine alone_store hid ?_
  intro now answer hanswer
  rw [hanswer hid]
  subst hid
  rw [Scene.after_taskChange rfl]
  exact h now

theorem alone_moveSa {expected : RunStatus} {next : SaRun}
    {post : Except ServiceError Bool → Unit → Scene → Prop} (hid : id = scene.task.id)
    (h : ∀ now, post (.ok (scene.task.withSa? expected next now).isSome) ()
      { scene with task := (scene.task.withSa? expected next now).getD scene.task }) :
    (store (.moveSa id expected next)).Keeps alone () scene post := by
  refine alone_store hid ?_
  intro now answer hanswer
  rw [hanswer hid]
  subst hid
  rw [Scene.after_taskChange rfl]
  exact h now

theorem alone_moveMl {expected : RunStatus} {next : MlRun}
    {post : Except ServiceError Bool → Unit → Scene → Prop} (hid : id = scene.task.id)
    (h : ∀ now, post (.ok (scene.task.withMl? expected next now).isSome) ()
      { scene with task := (scene.task.withMl? expected next now).getD scene.task }) :
    (store (.moveMl id expected next)).Keeps alone () scene post := by
  refine alone_store hid ?_
  intro now answer hanswer
  rw [hanswer hid]
  subst hid
  rw [Scene.after_taskChange rfl]
  exact h now

theorem alone_claimMerge {summary : Summary} {count : Nat}
    {post : Except ServiceError Bool → Unit → Scene → Prop} (hid : id = scene.task.id)
    (h : ∀ now, post (.ok (scene.task.withClaim? summary count now).isSome) ()
      { scene with task := (scene.task.withClaim? summary count now).getD scene.task }) :
    (store (.claimMerge id summary count)).Keeps alone () scene post := by
  refine alone_store hid ?_
  intro now answer hanswer
  rw [hanswer hid]
  subst hid
  rw [Scene.after_taskChange rfl]
  exact h now

/-- The code of the task is known, so that its artifact can be registered. -/
theorem alone_registerCompiled {codeId : Uuid} {file : StoredFile}
    {post : Except ServiceError Bool → Unit → Scene → Prop}
    (hcode : codeId = scene.task.codeId) (h : ∀ added, post (.ok added) () scene) :
    (storeOr (.registerCompiled codeId file)).Keeps alone () scene post := by
  refine alone_storeOr trivial ?_ ?_
  · intro _ added _
    exact h added
  · intro _ e hanswer
    obtain ⟨_, hok⟩ := hanswer hcode
    cases hok

/-! ### The world outside -/

theorem alone_blobUrl {key : String} {lifetime : Nat}
    {post : Except ServiceError String → Unit → Scene → Prop}
    (hok : ∀ url, post (.ok url) () scene) (herror : ∀ e, post (.error e) () scene) :
    (blobUrl key lifetime).Keeps alone () scene post := by
  rw [blobUrl, keeps_bind]
  refine alone_ask trivial ?_
  rintro env answer reached rfl
  cases answer with
  | ok url => exact hok url
  | error e => exact herror _

theorem alone_sendRequest {request : EngineRequest}
    {post : Except ServiceError Uuid → Unit → Scene → Prop}
    (h : ∀ outcome nextNumber, post outcome () { scene with nextNumber }) :
    (sendRequest request).Keeps alone () scene post := by
  rw [sendRequest, keeps_bind]
  refine alone_ask trivial ?_
  rintro env answer reached hmoves
  have hafter : ∃ nextNumber, reached = { scene with nextNumber } := by
    rcases hmoves with rfl | rfl
    · exact ⟨_, rfl⟩
    · exact ⟨_, rfl⟩
  obtain ⟨nextNumber, rfl⟩ := hafter
  cases answer with
  | ok sent => exact h _ nextNumber
  | error e => exact h _ nextNumber

end ScanFlow.Program
