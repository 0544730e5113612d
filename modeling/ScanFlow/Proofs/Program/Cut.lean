import ScanFlow.Orchestrator.Basic
import ScanFlow.Proofs.Program.Interleaving

/-!
Programs that are cut.

A program that is given up between two calls leaves behind what its calls have written;
nothing is taken back. What every call of a program leads to therefore says where it can be
cut, and what its last call leads to says how it ends. Both are shown together, call by call,
with one rule for each call on a system that shows a scene.
-/

namespace ScanFlow

/-- A run that is given up after some of its calls, each of which meets an environment of its
own. -/
inductive Program.Cut {α : Type} : Program α → System → System → Prop where
  | here (program : Program α) (system : System) : Cut program system system
  | later {β : Type} (request : Call β) (next : β → Program α) (env : Environment)
      {system mid : System}
      (rest : Cut (next (request.perform env system).1) (request.perform env system).2 mid) :
      Cut (.call request next) system mid

/-- A number of calls in a row, and nothing after them. -/
theorem Program.cut_solo {α : Type} (env : Environment) (n : Nat) (program : Program α)
    (system : System) : program.Cut system (program.solo env n system).2 := by
  induction n generalizing program system with
  | zero => exact .here program system
  | succ n ih =>
    cases program with
    | done outcome => exact .here _ system
    | call request next => exact .later request next env (ih _ _)

namespace Program

variable {α β : Type}

/-- Every call of the program leads to a point, and its outcome satisfies the
postcondition. -/
def Through (point : System → Prop) (program : Program α) (system : System)
    (post : Except ServiceError α → System → Prop) : Prop :=
  match program with
  | .done outcome => post outcome system
  | .call request next =>
    ∀ env, point (request.perform env system).2 ∧
      (next (request.perform env system).1).Through point (request.perform env system).2 post

variable {point : System → Prop} {system : System}
  {post : Except ServiceError α → System → Prop}

theorem Through.cut {program : Program α} {mid : System}
    (h : program.Through point system post) (hcut : program.Cut system mid)
    (hpoint : point system) : point mid := by
  induction hcut with
  | here program system => exact hpoint
  | later request next env rest ih => exact ih (h env).2 (h env).1

theorem Through.runs {program : Program α} {outcome : Except ServiceError α} {final : System}
    (h : program.Through point system post) (hruns : program.Runs system outcome final) :
    post outcome final := by
  induction hruns with
  | done outcome system => exact h
  | call request next env rest ih => exact ih (h env).2

theorem Through.mono {program : Program α} {wider : System → Prop}
    {weaker : Except ServiceError α → System → Prop} (h : program.Through point system post)
    (hpoint : ∀ system, point system → wider system)
    (hpost : ∀ outcome system, post outcome system → weaker outcome system) :
    program.Through wider system weaker := by
  induction program generalizing system with
  | done outcome => exact hpost _ _ h
  | call request next ih => exact fun env => ⟨hpoint _ (h env).1, ih _ (h env).2⟩

theorem Through.and {program : Program α} {other : System → Prop}
    {also : Except ServiceError α → System → Prop} (h : program.Through point system post)
    (hother : program.Through other system also) :
    program.Through (fun system => point system ∧ other system) system
      fun outcome final => post outcome final ∧ also outcome final := by
  induction program generalizing system with
  | done outcome => exact ⟨h, hother⟩
  | call request next ih =>
    exact fun env => ⟨⟨(h env).1, (hother env).1⟩, ih _ (h env).2 (hother env).2⟩

/-- What a program does on a scene on its own. -/
theorem Keeps.through {program : Program α} {scene : Scene}
    {result : Except ServiceError α → Unit → Scene → Prop}
    (hkeeps : program.Keeps alone () scene result) (hshows : system.Shows scene) :
    program.Through (fun _ => True) system fun outcome final =>
      ∃ reached, final.Shows reached ∧ result outcome () reached := by
  induction program generalizing scene system with
  | done outcome => exact ⟨scene, hshows, hkeeps⟩
  | call request next ih =>
    intro env
    obtain ⟨moved, hmoves, hmoved⟩ := hshows.perform env request
    obtain ⟨_, _, hnext⟩ := hkeeps scene rfl env _ moved hmoves
    exact ⟨trivial, ih _ hnext hmoved⟩

/-- What is left to show of a program whose first part has ended. -/
def Rest (point : System → Prop) (next : β → Program α)
    (post : Except ServiceError α → System → Prop) : Except ServiceError β → System → Prop
  | .ok b, system => (next b).Through point system post
  | .error e, system => post (.error e) system

theorem through_bind (program : Program β) (next : β → Program α) :
    (program >>= next).Through point system post ↔
      program.Through point system (Rest point next post) := by
  induction program generalizing system with
  | done outcome =>
    cases outcome with
    | ok b => exact Iff.rfl
    | error e => exact Iff.rfl
  | call request rest ih => exact forall_congr' fun env => and_congr_right fun _ => ih _

theorem through_attempt (program : Program α)
    {post : Except ServiceError (Except ServiceError α) → System → Prop} :
    program.attempt.Through point system post ↔
      program.Through point system fun outcome => post (.ok outcome) := by
  induction program generalizing system with
  | done outcome => exact Iff.rfl
  | call request rest ih => exact forall_congr' fun env => and_congr_right fun _ => ih _

/-! ### Points that a program does not leave -/

def Preserves (point : System → Prop) (program : Program α) : Prop :=
  ∀ system, point system → program.Through point system fun _ final => point final

theorem Preserves.runs {program : Program α} {outcome : Except ServiceError α} {final : System}
    (h : program.Preserves point) (hruns : program.Runs system outcome final)
    (hpoint : point system) : point final :=
  (h system hpoint).runs hruns

theorem preserves_of_only {allowed : {β : Type} → Call β → Prop} {program : Program α}
    (hstep : ∀ {β : Type} (call : Call β) (env : Environment) (system : System),
      allowed call → point system → point (call.perform env system).2)
    (honly : program.Only allowed) : program.Preserves point := by
  induction program with
  | done outcome => exact fun _ hpoint => hpoint
  | call request next ih =>
    intro system hpoint env
    have hnext := hstep request env system honly.1 hpoint
    exact ⟨hnext, ih _ (honly.2 _) _ hnext⟩

theorem preserves_bind {program : Program β} {next : β → Program α}
    (hfirst : program.Preserves point) (hnext : ∀ b, (next b).Preserves point) :
    (program >>= next).Preserves point := by
  intro system hpoint
  rw [through_bind]
  apply (hfirst system hpoint).mono fun _ => id
  intro outcome final hfinal
  cases outcome with
  | ok b => exact hnext b final hfinal
  | error e => exact hfinal

theorem preserves_attempt {program : Program α} (h : program.Preserves point) :
    program.attempt.Preserves point := by
  intro system hpoint
  rw [through_attempt]
  exact h system hpoint

/-! ### Calls that leave the system as it is -/

theorem through_clock {post : Except ServiceError Timestamp → System → Prop}
    (hpoint : point system) (h : ∀ now, post (.ok now) system) :
    clock.Through point system post :=
  fun env => ⟨hpoint, h env.now⟩

theorem through_blobUrl {key : String} {lifetime : Nat}
    {post : Except ServiceError String → System → Prop} (hpoint : point system)
    (hok : ∀ url, post (.ok url) system) (herror : ∀ e, post (.error e) system) :
    (blobUrl key lifetime).Through point system post := by
  rw [blobUrl, through_bind]
  intro env
  refine ⟨hpoint, ?_⟩
  cases ((Call.blobUrl key lifetime).perform env system).1 with
  | ok url => exact hok url
  | error e => exact herror _

theorem through_read {operation : Store.Operation α}
    (hreads : ∀ now store, (operation.perform now store).2 = store) (hpoint : point system)
    (h : ∀ now, post (.ok (operation.perform now system.store).1) system) :
    (store operation).Through point system post := by
  intro env
  have hsame : ((Call.store operation).perform env system).2 = system := by
    change { system with store := (operation.perform env.now system.store).2 } = system
    rw [hreads]
  rw [hsame]
  exact ⟨hpoint, h env.now⟩

theorem through_require {operation : Store.Operation (Option α)} {missing : ServiceError}
    (hreads : ∀ now store, (operation.perform now store).2 = store) (hpoint : point system)
    (hfound : ∀ now a, (operation.perform now system.store).1 = some a → post (.ok a) system)
    (hmissing : post (.error missing) system) :
    (require operation missing).Through point system post := by
  rw [require, through_bind]
  refine through_read hreads hpoint ?_
  intro now
  unfold Rest
  cases hanswer : (operation.perform now system.store).1 with
  | none => exact hmissing
  | some a => exact hfound now a hanswer

variable {scene : Scene} {id : Uuid}

theorem through_findWorkflow {post : Except ServiceError (Option Workflow) → System → Prop}
    (hshows : system.Shows scene) (hpoint : point system) (hid : id = scene.workflow.id)
    (h : post (.ok (some scene.workflow)) system) :
    (store (.findWorkflow id)).Through point system post := by
  refine through_read (fun _ _ => rfl) hpoint ?_
  intro now
  rw [Store.Operation.perform, hid, hshows.workflow]
  exact h

theorem through_findTask {post : Except ServiceError (Option Task) → System → Prop}
    (hshows : system.Shows scene) (hpoint : point system) (hid : id = scene.task.id)
    (h : post (.ok (some scene.task)) system) :
    (store (.findTask id)).Through point system post := by
  refine through_read (fun _ _ => rfl) hpoint ?_
  intro now
  rw [Store.Operation.perform, hid, hshows.task]
  exact h

theorem through_task {post : Except ServiceError Task → System → Prop}
    (hshows : system.Shows scene) (hpoint : point system) (hid : id = scene.task.id)
    (h : post (.ok scene.task) system) : (task id).Through point system post := by
  rw [task, require, through_bind]
  exact through_findTask hshows hpoint hid h

/-! ### Calls that write to the scene -/

theorem through_reserve {count : Nat} {post : Except ServiceError Nat → System → Prop}
    (hshows : system.Shows scene)
    (h : ∀ next : System, next.Shows { scene with nextNumber := scene.nextNumber + count } →
      next.broker = system.broker → point next ∧ post (.ok scene.nextNumber) next) :
    (reserve count).Through point system post := by
  intro env
  have hnext : ((Call.reserve count).perform env system).1 = scene.nextNumber :=
    hshows.nextNumber
  rw [hnext]
  refine h _ { hshows with nextNumber := ?_ } rfl
  exact congrArg (· + count) hshows.nextNumber

theorem through_newId {post : Except ServiceError Uuid → System → Prop}
    (hshows : system.Shows scene)
    (h : ∀ id (next : System), next.Shows { scene with nextNumber := scene.nextNumber + 1 } →
      next.broker = system.broker → point next ∧ post (.ok id) next) :
    newId.Through point system post := by
  rw [newId, through_bind]
  exact through_reserve hshows (h _)

theorem through_store {operation : Store.Operation α} (hshows : system.Shows scene)
    (h : ∀ now answer (next : System), operation.Answers now scene answer →
      next.Shows (scene.after now operation) → next.broker = system.broker →
        point next ∧ post (.ok answer) next) :
    (store operation).Through point system post := by
  intro env
  exact h env.now _ _ (hshows.answers env.now operation) (hshows.store env.now operation) rfl

theorem through_storeOr {operation : Store.Operation (Except StoreError α)}
    (hshows : system.Shows scene)
    (h : ∀ now answer (next : System), operation.Answers now scene answer →
      next.Shows (scene.after now operation) → next.broker = system.broker →
        point next ∧ post (answer.mapError fun e => .ofCauses [e.message]) next) :
    (storeOr operation).Through point system post := by
  rw [storeOr, through_bind]
  refine through_store hshows ?_
  intro now answer next hanswer hnext hbroker
  obtain ⟨hpoint, hpost⟩ := h now answer next hanswer hnext hbroker
  refine ⟨hpoint, ?_⟩
  cases answer with
  | ok a => exact hpost
  | error e => exact hpost

theorem through_advance {moment : Timestamp}
    {post : Except ServiceError (Option Workflow) → System → Prop}
    (hshows : system.Shows scene) (hid : id = scene.workflow.id)
    (h : ∀ next : System, next.Shows
      { scene with workflow := (scene.workflow.advanced? moment).getD scene.workflow } →
        next.broker = system.broker →
          point next ∧ post (.ok (scene.workflow.advanced? moment)) next) :
    (store (.advance id moment)).Through point system post := by
  refine through_store hshows ?_
  intro now answer next hanswer hnext hbroker
  rw [hanswer hid]
  subst hid
  rw [Scene.after_workflowChange rfl] at hnext
  exact h next hnext hbroker

theorem through_finish {status : Workflow.Status}
    {post : Except ServiceError Unit → System → Prop} (hshows : system.Shows scene)
    (hid : id = scene.workflow.id)
    (h : ∀ now (next : System), next.Shows
      { scene with workflow := (scene.workflow.finished? status now).getD scene.workflow } →
        next.broker = system.broker → point next ∧ post (.ok ()) next) :
    (finish id status).Through point system post := by
  rw [finish, through_bind]
  refine through_store hshows ?_
  intro now answer next _ hnext hbroker
  subst hid
  rw [Scene.after_workflowChange rfl] at hnext
  exact h now next hnext hbroker

theorem through_setArtifact {name key : String} {saProgress : Option Nat}
    {post : Except ServiceError Bool → System → Prop} (hshows : system.Shows scene)
    (hid : id = scene.task.id)
    (h : ∀ now (next : System), next.Shows { scene with
        task := (scene.task.withArtifact? name key saProgress now).getD scene.task } →
      next.broker = system.broker →
        point next ∧ post (.ok (scene.task.withArtifact? name key saProgress now).isSome) next) :
    (storeOr (.setArtifact id name key saProgress)).Through point system post := by
  refine through_storeOr hshows ?_
  intro now answer next hanswer hnext hbroker
  rw [hanswer hid]
  subst hid
  rw [Scene.after_taskChange rfl] at hnext
  exact h now next hnext hbroker

theorem through_bindAnalysis {binding : AnalysisBinding}
    {post : Except ServiceError Bool → System → Prop} (hshows : system.Shows scene)
    (hid : id = scene.task.id)
    (h : ∀ now (next : System), next.Shows { scene with
        task := (scene.task.withAnalysis? binding now).getD scene.task } →
      next.broker = system.broker →
        point next ∧ post (.ok (scene.task.withAnalysis? binding now).isSome) next) :
    (store (.bindAnalysis id binding)).Through point system post := by
  refine through_store hshows ?_
  intro now answer next hanswer hnext hbroker
  rw [hanswer hid]
  subst hid
  rw [Scene.after_taskChange rfl] at hnext
  exact h now next hnext hbroker

theorem through_moveSa {expected : RunStatus} {run : SaRun}
    {post : Except ServiceError Bool → System → Prop} (hshows : system.Shows scene)
    (hid : id = scene.task.id)
    (h : ∀ now (next : System), next.Shows { scene with
        task := (scene.task.withSa? expected run now).getD scene.task } →
      next.broker = system.broker →
        point next ∧ post (.ok (scene.task.withSa? expected run now).isSome) next) :
    (store (.moveSa id expected run)).Through point system post := by
  refine through_store hshows ?_
  intro now answer next hanswer hnext hbroker
  rw [hanswer hid]
  subst hid
  rw [Scene.after_taskChange rfl] at hnext
  exact h now next hnext hbroker

theorem through_moveMl {expected : RunStatus} {run : MlRun}
    {post : Except ServiceError Bool → System → Prop} (hshows : system.Shows scene)
    (hid : id = scene.task.id)
    (h : ∀ now (next : System), next.Shows { scene with
        task := (scene.task.withMl? expected run now).getD scene.task } →
      next.broker = system.broker →
        point next ∧ post (.ok (scene.task.withMl? expected run now).isSome) next) :
    (store (.moveMl id expected run)).Through point system post := by
  refine through_store hshows ?_
  intro now answer next hanswer hnext hbroker
  rw [hanswer hid]
  subst hid
  rw [Scene.after_taskChange rfl] at hnext
  exact h now next hnext hbroker

theorem through_claimMerge {summary : Summary} {count : Nat}
    {post : Except ServiceError Bool → System → Prop} (hshows : system.Shows scene)
    (hid : id = scene.task.id)
    (h : ∀ now (next : System), next.Shows { scene with
        task := (scene.task.withClaim? summary count now).getD scene.task } →
      next.broker = system.broker →
        point next ∧ post (.ok (scene.task.withClaim? summary count now).isSome) next) :
    (store (.claimMerge id summary count)).Through point system post := by
  refine through_store hshows ?_
  intro now answer next hanswer hnext hbroker
  rw [hanswer hid]
  subst hid
  rw [Scene.after_taskChange rfl] at hnext
  exact h now next hnext hbroker

/-- The code of the task is known, so that its artifact can be registered. -/
theorem through_registerCompiled {codeId : Uuid} {file : StoredFile}
    {post : Except ServiceError Bool → System → Prop} (hshows : system.Shows scene)
    (hcode : codeId = scene.task.codeId)
    (h : ∀ added (next : System), next.Shows scene → next.broker = system.broker →
      point next ∧ post (.ok added) next) :
    (storeOr (.registerCompiled codeId file)).Through point system post := by
  refine through_storeOr hshows ?_
  intro now answer next hanswer hnext hbroker
  obtain ⟨added, rfl⟩ := hanswer hcode
  exact h added next hnext hbroker

/-! ### The broker -/

theorem through_sendRequest {request : EngineRequest}
    {post : Except ServiceError Uuid → System → Prop} (hshows : system.Shows scene)
    (hpoint : point system)
    (hsent : ∀ id (next : System),
      next.Shows { scene with nextNumber := scene.nextNumber + 1 } →
        next.broker = system.broker.publish id request.queue request.toJson →
          point next ∧ post (.ok id) next)
    (hrefused : ∀ e, post (.error e) system) :
    (sendRequest request).Through point system post := by
  rw [sendRequest, through_bind]
  intro env
  simp only [Call.perform, System.publish]
  split
  · exact ⟨hpoint, hrefused _⟩
  · refine hsent _ _ { hshows with nextNumber := ?_ } rfl
    exact congrArg (· + 1) hshows.nextNumber

end Program

end ScanFlow
