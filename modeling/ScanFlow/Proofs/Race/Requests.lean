import ScanFlow.Proofs.Lifecycle.Reach
import ScanFlow.Proofs.Race.Asking
import ScanFlow.Proofs.Recovery.Compilation

/-!
Which requests reach the engines when submissions and answers come at the same time.

Each service dispatches at most one stage. A submission dispatches the first stage of the
workflow it has created; an answer goes on to a later stage, which is never the compilation.
Whoever dispatches an analysis asks the engines only after binding the snapshot, and with what
has been read before. In every order of calls, the requests are therefore made once each, and
they say what is stored.
-/

namespace ScanFlow

def Call.Silent {β : Type} (call : Call β) : Prop :=
  match call with
  | .publish _ _ | .store (.createWorkflow _ _) => False
  | _ => True

theorem Call.Silent.asks {β : Type} {o : Orchestrator} {call : Call β} (hsilent : call.Silent)
    (answer : β) (known : Knowledge) : call.Asks o answer known known.asked := by
  cases call with
  | store operation =>
    cases operation with
    | createWorkflow => exact hsilent.elim
    | _ => exact rfl
  | publish => exact hsilent.elim
  | _ => exact rfl

theorem refuseFaults_eq_ok {faults : List FieldFault} (h : refuseFaults faults = .ok ()) :
    faults = [] := by
  unfold refuseFaults at h
  split at h
  · rename_i hempty
    simpa using hempty
  · cases h

/-- A workflow that has been advanced is not at its compile stage. -/
theorem Workflow.nextStage?_ne_compile {workflow : Workflow} (h : 0 < workflow.progress) :
    workflow.nextStage? ≠ some .compile := by
  intro hcompile
  have hzero := (Workflow.nextStage?_eq_compile hcompile).1
  omega

namespace Orchestrator

open Program

variable {o : Orchestrator} {α β : Type} {known : Knowledge}

/-! ### Single calls -/

theorem grants_silent (call : Call β) (hsilent : call.Silent) (answer : β) (known : Knowledge) :
    (asking o).grants call answer known known :=
  ⟨fun _ h => h, fun _ h => Or.inl h, hsilent.asks answer known⟩

/-- A program may keep in mind what an answer tells. -/
theorem grants_learn {call : Call β} {answer : β} {insight : Insight} (hsilent : call.Silent)
    (hreveals : call.Reveals known.insights answer insight) :
    (asking o).grants call answer known (known.learn insight) := by
  refine ⟨fun _ h => List.mem_cons_of_mem _ h, ?_, hsilent.asks answer known⟩
  intro other hother
  rcases List.mem_cons.mp hother with rfl | hother
  · exact Or.inr hreveals
  · exact Or.inl hother

theorem asks_silent {program : Program α} (hsilent : program.Only Call.Silent) :
    program.Honors (asking o) known fun _ learnt => learnt = known :=
  honors_of_only hsilent fun call answer hcall => grants_silent call hcall answer known

theorem asks_of_silent {program : Program α} (hsilent : program.Only Call.Silent) :
    program.Honors (asking o) known fun _ _ => True :=
  honors_mono (asks_silent hsilent) fun _ _ _ => trivial

/-- A silent program first. -/
theorem asks_after {program : Program β} {next : β → Program α}
    {post : Except ServiceError α → Knowledge → Prop} (hsilent : program.Only Call.Silent)
    (hnext : ∀ b, (next b).Honors (asking o) known post) (herror : ∀ e, post (.error e) known) :
    (program >>= next).Honors (asking o) known post :=
  honors_after hsilent (fun call answer hcall => grants_silent call hcall answer known) hnext herror

theorem asks_findWorkflow {id : Uuid}
    {post : Except ServiceError (Option Workflow) → Knowledge → Prop}
    (hnone : post (.ok none) known)
    (hsome : ∀ copy : Workflow, copy.id = id →
      post (.ok (some copy)) (known.learn (.workflow copy))) :
    (store (.findWorkflow id)).Honors (asking o) known post := by
  apply honors_store
  intro system now hholds
  cases hfound : system.store.workflows.get? id with
  | none =>
    refine ⟨known, grants_silent (.store (.findWorkflow id)) trivial _ known, ?_⟩
    rw [Store.Operation.perform, hfound]
    exact hnone
  | some copy =>
    refine ⟨known.learn (.workflow copy), ?_, ?_⟩
    · rw [Store.Operation.perform, hfound]
      exact grants_learn trivial .found
    · rw [Store.Operation.perform, hfound]
      exact hsome copy (hholds.1.workflows id copy hfound)

theorem asks_task {id : Uuid} {post : Except ServiceError Task → Knowledge → Prop}
    (hmissing : ∀ e, post (.error e) known)
    (hfound : ∀ copy : Task, copy.id = id → post (.ok copy) (known.learn (.task copy))) :
    (task id).Honors (asking o) known post := by
  apply honors_require
  intro system now hholds
  cases hstored : system.store.tasks.get? id with
  | none =>
    refine ⟨known, ?_, ?_, fun _ => hmissing _⟩
    · rw [Store.Operation.perform, hstored]
      exact grants_silent (.store (.findTask id)) trivial none known
    · intro copy hcopy
      rw [Store.Operation.perform, hstored] at hcopy
      cases hcopy
  | some copy =>
    refine ⟨known.learn (.task copy), ?_, ?_, ?_⟩
    · rw [Store.Operation.perform, hstored]
      exact grants_learn trivial .task
    · intro other hother
      rw [Store.Operation.perform, hstored] at hother
      rw [← Option.some.inj hother]
      exact hfound copy (hholds.1.tasks id copy hstored)
    · intro hnone
      rw [Store.Operation.perform, hstored] at hnone
      cases hnone

theorem asks_advance {copy : Workflow} {moment : Timestamp}
    {post : Except ServiceError (Option Workflow) → Knowledge → Prop}
    (hcopy : .workflow copy ∈ known.insights)
    (hsome : ∀ advanced : Workflow, 0 < advanced.progress →
      post (.ok (some advanced)) (known.learn (.workflow advanced)))
    (hnone : post (.ok none) (known.learn (.stopped copy.id))) :
    (store (.advance copy.id moment)).Honors (asking o) known post := by
  apply honors_store
  intro system now _
  change ∃ learnt, (asking o).grants (.store (.advance copy.id moment))
    (system.store.changeWorkflow copy.id fun workflow => workflow.advanced? moment).1 known learnt ∧
      post (.ok (system.store.changeWorkflow copy.id fun workflow =>
        workflow.advanced? moment).1) learnt
  cases hanswer : (system.store.changeWorkflow copy.id fun workflow =>
      workflow.advanced? moment).1 with
  | none => exact ⟨_, grants_learn trivial (.refused hcopy), hnone⟩
  | some advanced =>
    obtain ⟨before, _, hchange, _⟩ := Store.changeWorkflow_eq_some hanswer
    refine ⟨_, grants_learn trivial .advanced, hsome advanced ?_⟩
    rw [(Workflow.advanced?_eq_some hchange).2.2]
    exact Nat.succ_pos _

theorem asks_blobUrl {key : String} {lifetime : Nat}
    {post : Except ServiceError String → Knowledge → Prop} (herror : ∀ e, post (.error e) known)
    (hurl : ∀ url, post (.ok url) (known.learn (.issued key lifetime url))) :
    (blobUrl key lifetime).Honors (asking o) known post := by
  rw [blobUrl, honors_bind]
  intro system env _
  cases hanswer : ((Call.blobUrl key lifetime).perform env system).1 with
  | ok url => exact ⟨_, grants_learn trivial .issued, hurl url⟩
  | error e =>
    exact ⟨known, grants_silent (.blobUrl key lifetime) trivial (.error e) known, herror _⟩

theorem asks_bindAnalysis {id : Uuid} {binding : AnalysisBinding}
    {post : Except ServiceError Bool → Knowledge → Prop} (hrefused : post (.ok false) known)
    (hbound : post (.ok true) (known.learn (.bound id binding.snapshot))) :
    (store (.bindAnalysis id binding)).Honors (asking o) known post := by
  apply honors_store
  intro system now _
  cases ((Store.Operation.bindAnalysis id binding).perform now system.store).1 with
  | true => exact ⟨_, grants_learn trivial .bound, hbound⟩
  | false =>
    exact ⟨known, grants_silent (.store (.bindAnalysis id binding)) trivial false known, hrefused⟩

theorem asks_createWorkflow {workflow : Workflow} {task : Task}
    {post : Except ServiceError Unit → Knowledge → Prop} (hlimits : workflow.limits.faults = [])
    (hrefused : ∀ e, post (.error e) known)
    (hcreated : post (.ok ()) ((known.learn (.workflow workflow)).learn (.created workflow.id))) :
    (storeOr (.createWorkflow workflow task)).Honors (asking o) known post := by
  apply honors_storeOr
  intro system now _
  cases ((Store.Operation.createWorkflow workflow task).perform now system.store).1 with
  | error e =>
    exact ⟨known, ⟨fun _ h => h, fun _ h => Or.inl h, hlimits, rfl⟩, hrefused _⟩
  | ok done =>
    refine ⟨(known.learn (.workflow workflow)).learn (.created workflow.id), ⟨?_, ?_, hlimits, rfl⟩,
      hcreated⟩
    · exact fun _ h => List.mem_cons_of_mem _ (List.mem_cons_of_mem _ h)
    · intro insight hinsight
      rcases List.mem_cons.mp hinsight with rfl | hinsight
      · exact Or.inr .created
      rcases List.mem_cons.mp hinsight with rfl | hinsight
      · exact Or.inr .copied
      · exact Or.inl hinsight

theorem asks_sendRequest {request : EngineRequest}
    {post : Except ServiceError Uuid → Knowledge → Prop}
    (hgrounded : request.Grounded o known.insights)
    (hnew : request.errand ∉ known.asked.map EngineRequest.errand)
    (hsent : ∀ id, post (.ok id) (known.ask request)) (hrefused : ∀ e, post (.error e) known) :
    (sendRequest request).Honors (asking o) known post := by
  rw [sendRequest, honors_bind]
  intro system env _
  cases ((Call.publish request.queue request.toJson).perform env system).1 with
  | ok id =>
    exact ⟨known.ask request,
      ⟨fun _ h => h, fun _ h => Or.inl h, request, rfl, hgrounded, hnew, rfl⟩, hsent id⟩
  | error e =>
    exact ⟨known,
      ⟨fun _ h => h, fun _ h => Or.inl h, request, rfl, hgrounded, hnew, rfl⟩, hrefused _⟩

/-! ### Dispatching -/

/-- Requests with errands of their own may all be sent. -/
theorem sendAll_asks {requests : List EngineRequest}
    (hgrounded : ∀ request ∈ requests, request.Grounded o known.insights)
    (hnew : ∀ request ∈ requests, request.errand ∉ known.asked.map EngineRequest.errand)
    (hapart : (requests.map EngineRequest.errand).Nodup) :
    (requests.forM fun request => do
      let _ ← Program.sendRequest request).Honors (asking o) known fun _ _ => True := by
  induction requests generalizing known with
  | nil => trivial
  | cons request rest ih =>
    rw [List.map_cons, List.nodup_cons] at hapart
    change Honors _ (_ >>= fun _ => rest.forM _) _ _
    rw [honors_bind, honors_bind]
    refine asks_sendRequest (hgrounded request List.mem_cons_self)
      (hnew request List.mem_cons_self) (fun _ => ?_) fun _ => trivial
    refine ih (fun other hother => hgrounded other (List.mem_cons_of_mem _ hother)) ?_ hapart.2
    intro other hother hagain
    rw [Knowledge.ask, List.map_append, List.map_singleton] at hagain
    rcases List.mem_append.mp hagain with hagain | hagain
    · exact hnew other (List.mem_cons_of_mem _ hother) hagain
    · rw [← List.mem_singleton.mp hagain] at hapart
      exact hapart.1 (List.mem_map_of_mem hother)

theorem analysisRequests_apart (kind : Task.Kind) (request : AnalysisRequest) :
    ((analysisRequests kind request).map EngineRequest.errand).Nodup := by
  cases kind <;>
    simp [analysisRequests, Task.Kind.includesSa, Task.Kind.includesMl, EngineRequest.errand,
      EngineRequest.queue]

/-- The engines that are asked are those that the shape runs. -/
theorem analysisRequests_grounded {insights : List Insight} {workflow : Workflow}
    {kind : Task.Kind} {request : AnalysisRequest}
    (hkind : workflow.shape.taskKind? = some kind)
    (hfounded : Founded o insights workflow request) :
    ∀ asked ∈ analysisRequests kind request, asked.Grounded o insights := by
  have hsa := workflow.shape.taskKind?_includesSa
  have hml := workflow.shape.taskKind?_includesMl
  rw [hkind, Option.any_some] at hsa hml
  intro asked hasked
  rcases List.mem_append.mp hasked with hasked | hasked
  · split at hasked
    · rename_i hincludes
      rw [List.mem_singleton.mp hasked]
      exact ⟨workflow, hfounded, hsa ▸ hincludes⟩
    · cases hasked
  · split at hasked
    · rename_i hincludes
      rw [List.mem_singleton.mp hasked]
      exact ⟨workflow, hfounded, hml ▸ hincludes⟩
    · cases hasked

theorem requestAnalysis_asks {workflow : Workflow} {task : Task} {kind : Task.Kind}
    {snapshot : TemplateSnapshot} (hworkflow : .workflow workflow ∈ known.insights)
    (htask : .task task ∈ known.insights) (hlinked : task.id = workflow.taskId)
    (hkind : workflow.shape.taskKind? = some kind) (hrules : snapshot.rules ≠ [])
    (hasked : known.asked = []) :
    (o.requestAnalysis workflow task kind snapshot).Honors (asking o) known fun _ _ => True := by
  cases hkey : task.targetKey with
  | none =>
    rw [requestAnalysis, hkey]
    trivial
  | some key =>
    rw [requestAnalysis_eq hkey, honors_bind]
    refine asks_blobUrl (fun _ => trivial) fun url => ?_
    change Honors _ (_ >>= _) _ _
    refine asks_after (only_ask trivial) (fun now => ?_) fun _ => trivial
    refine asks_after trivial (fun runs => ?_) fun _ => trivial
    rw [bindAndSend, honors_bind]
    refine asks_bindAnalysis trivial ?_
    change Honors _ (_ >>= _) _ _
    rw [honors_bind]
    refine honors_mono (sendAll_asks ?_ ?_ (analysisRequests_apart kind _)) ?_
    · apply analysisRequests_grounded hkind
      exact
        { copied := by simp [Knowledge.learn, hworkflow]
          workflowId := rfl
          taskId := hlinked.symm
          timeout := rfl
          memory := rfl
          source :=
            ⟨task, key, by simp [Knowledge.learn, htask], rfl, hkey, by simp [Knowledge.learn]⟩
          rules := ⟨snapshot, by simp [Knowledge.learn], rfl, hrules⟩ }
    · simp [Knowledge.learn, hasked]
    · intro outcome learnt _
      cases outcome with
      | ok _ => trivial
      | error e => trivial

theorem captureRules_asks (workflow : Workflow) :
    (captureRules workflow).Honors (asking o) known fun outcome learnt => learnt = known ∧
      ∀ snapshot, outcome = .ok (some snapshot) → snapshot.rules ≠ [] := by
  unfold captureRules
  split
  · exact ⟨rfl, nofun⟩
  refine asks_after (only_ask trivial) (fun template => ?_) fun _ => ⟨rfl, nofun⟩
  cases template with
  | none => exact ⟨rfl, nofun⟩
  | some template =>
    change (Program.store _ >>= _).Honors _ _ _
    refine asks_after (only_ask trivial) (fun rules => ?_) fun _ => ⟨rfl, nofun⟩
    split
    · exact ⟨rfl, nofun⟩
    · rename_i hrules
      refine asks_after (only_ask trivial) (fun now => ?_) fun _ => ⟨rfl, nofun⟩
      refine ⟨rfl, ?_⟩
      rintro _ ⟨⟩
      simpa [TemplateSnapshot.capture] using hrules

theorem dispatchAnalysis_asks {workflow : Workflow}
    (hworkflow : .workflow workflow ∈ known.insights) (hasked : known.asked = []) :
    (o.dispatchAnalysis workflow).Honors (asking o) known fun _ _ => True := by
  rw [dispatchAnalysis, honors_bind]
  refine asks_task (fun _ => trivial) fun task hlinked => ?_
  have hworkflow : Insight.workflow workflow ∈ (known.learn (.task task)).insights :=
    List.mem_cons_of_mem _ hworkflow
  change Honors _ (if _ then _ else _) _ _
  split
  · trivial
  split
  · trivial
  rename_i kind hkind
  rw [honors_bind]
  apply honors_mono (captureRules_asks workflow)
  rintro outcome _ ⟨rfl, hrules⟩
  cases outcome with
  | error e => trivial
  | ok captured =>
    cases captured with
    | none =>
      exact asks_of_silent (abortWithoutRules_only workflow task kind trivial
        (fun _ _ _ => trivial) (fun _ _ _ => trivial) trivial)
    | some snapshot =>
      exact requestAnalysis_asks hworkflow List.mem_cons_self hlinked hkind (hrules snapshot rfl)
        hasked

/-- Only who has created a workflow has it compiled. -/
theorem dispatchCompile_asks {workflow : Workflow}
    (hworkflow : .workflow workflow ∈ known.insights)
    (hcreated : .created workflow.id ∈ known.insights)
    (hcompile : workflow.shape.runsCompile = true) (hasked : known.asked = []) :
    (o.dispatchCompile workflow).Honors (asking o) known fun _ _ => True := by
  unfold dispatchCompile
  refine asks_after (only_require trivial) (fun code => ?_) fun _ => trivial
  refine asks_after (only_require trivial) (fun source => ?_) fun _ => trivial
  refine asks_after (only_blobUrl trivial) (fun url => ?_) fun _ => trivial
  change Honors _ (_ >>= _) _ _
  rw [honors_bind]
  refine asks_sendRequest ⟨hcreated, workflow, hworkflow, rfl, hcompile⟩ ?_ (fun _ => trivial)
    fun _ => trivial
  simp [hasked]

theorem finish_silent (id : Uuid) (status : Workflow.Status) :
    (Program.finish id status).Only Call.Silent :=
  only_bind (only_ask trivial) fun _ => trivial

/-- The next stage of a workflow that is not at its compile stage. -/
theorem chain_asks {workflow : Workflow} (hworkflow : .workflow workflow ∈ known.insights)
    (hasked : known.asked = [])
    (hstage : workflow.isRunning = true → workflow.nextStage? ≠ some .compile) :
    (o.chain workflow).Honors (asking o) known fun _ _ => True := by
  unfold chain
  split
  · trivial
  rename_i hrunning
  split
  · trivial
  rename_i stage hnext
  cases stage with
  | compile => exact absurd hnext (hstage (by simpa using hrunning))
  | analysis =>
    rw [honors_bind, honors_attempt]
    apply honors_mono (dispatchAnalysis_asks hworkflow hasked)
    intro outcome learnt _
    cases outcome with
    | ok _ => trivial
    | error e => exact asks_of_silent (finish_silent workflow.id .aborted)

/-! ### Answers -/

/-- What is known of the workflow that settling goes on with. -/
structure GoesOn (known : Knowledge) (workflow : Workflow) (learnt : Knowledge) : Prop where
  copied : .workflow workflow ∈ learnt.insights
  asked : learnt.asked = known.asked
  stage : workflow.isRunning = true → workflow.nextStage? ≠ some .compile

theorem advance_asks {workflow : Workflow} (hworkflow : .workflow workflow ∈ known.insights) :
    (advance workflow).Honors (asking o) known fun outcome learnt =>
      ∀ current, outcome = .ok current → GoesOn known current learnt := by
  unfold advance
  split
  · rename_i hstopped
    rintro _ ⟨⟩
    refine ⟨hworkflow, rfl, ?_⟩
    intro hrunning hnext
    have hleft : workflow.isFullyProgressed = true := by simpa [hrunning] using hstopped
    rw [Workflow.nextStage?, if_pos hleft] at hnext
    cases hnext
  refine asks_after (only_ask trivial) (fun now => ?_) fun _ _ hfailed => by cases hfailed
  rw [honors_bind]
  apply asks_advance hworkflow
  · intro advanced hpositive
    rintro _ ⟨⟩
    exact ⟨List.mem_cons_self, rfl, fun _ => Workflow.nextStage?_ne_compile hpositive⟩
  · change Honors _ (_ >>= _) _ _
    rw [honors_bind]
    apply honors_store
    intro system now hholds
    -- The workflow that is read now could not be advanced before, and cannot be since.
    obtain ⟨stored, hstored, hstopped⟩ := hholds.2 (.stopped workflow.id) List.mem_cons_self
    refine ⟨(known.learn (.stopped workflow.id)).learn (.workflow stored), ?_, ?_⟩
    · rw [Store.Operation.perform, hstored]
      exact grants_learn trivial .found
    · rw [Store.Operation.perform, hstored]
      rintro _ ⟨⟩
      refine ⟨List.mem_cons_self, rfl, ?_⟩
      intro hrunning hnext
      rcases hstopped with hended | hleft
      · cases hended.symm.trans hrunning
      · rw [Option.getD_some, Workflow.nextStage?, if_pos hleft] at hnext
        cases hnext

theorem settle_asks {workflow : Workflow} (taskId : Uuid)
    (hworkflow : .workflow workflow ∈ known.insights) (hasked : known.asked = []) :
    (o.settle workflow taskId).Honors (asking o) known fun _ _ => True := by
  rw [settle, honors_bind]
  apply honors_mono (advance_asks hworkflow)
  intro outcome learnt houtcome
  cases outcome with
  | error e => trivial
  | ok current =>
    obtain ⟨hcopied, hsame, hstage⟩ := houtcome current rfl
    refine asks_after (only_ask trivial) (fun found => ?_) fun _ => trivial
    cases found with
    | none => trivial
    | some task =>
      refine asks_after (conclude_only current task (fun _ => trivial) trivial
        (fun _ _ => trivial) fun _ => trivial) (fun _ => ?_) fun _ => trivial
      split
      · trivial
      · exact chain_asks hcopied (hsame.trans hasked) hstage

theorem resettle_asks {workflow : Workflow} (task : Task)
    (hworkflow : .workflow workflow ∈ known.insights) (hasked : known.asked = []) :
    (o.resettle workflow task).Honors (asking o) known fun _ _ => True := by
  unfold resettle
  split
  · exact settle_asks task.id hworkflow hasked
  · trivial

theorem acceptArtifact_asks {workflow : Workflow} (task : Task) (artifact : CompileArtifact)
    (hworkflow : .workflow workflow ∈ known.insights) (hasked : known.asked = []) :
    (o.acceptArtifact workflow task artifact).Honors (asking o) known fun _ _ => True := by
  unfold acceptArtifact
  refine asks_after (only_storeOr trivial) (fun bound => ?_) fun _ => trivial
  split
  · refine asks_after (only_newId trivial) (fun id => ?_) fun _ => trivial
    refine asks_after (only_ask trivial) (fun created => ?_) fun _ => trivial
    refine asks_after (only_storeOr trivial) (fun added => ?_) fun _ => trivial
    refine asks_after (only_ask trivial) (fun now => ?_) fun _ => trivial
    rw [honors_bind]
    refine asks_advance hworkflow (fun advanced hpositive => ?_) trivial
    change Honors _ (if _ then _ else _) _ _
    split
    · exact asks_of_silent (finish_silent advanced.id .complete)
    · exact chain_asks List.mem_cons_self hasked fun _ => Workflow.nextStage?_ne_compile hpositive
  · trivial

theorem acceptFindings_asks {workflow : Workflow} (task : Task) (message : SaFinished)
    (hworkflow : .workflow workflow ∈ known.insights) (hasked : known.asked = []) :
    (o.acceptFindings workflow task message).Honors (asking o) known fun _ _ => True := by
  unfold acceptFindings
  refine asks_after (only_ask trivial) (fun first => ?_) fun _ => trivial
  refine asks_after (only_ask trivial) (fun now => ?_) fun _ => trivial
  dsimp only
  split
  · trivial
  rename_i next _
  have hmove : ∀ ids : List Uuid, (o.endSa workflow task next
      (discardGroups task.id ids)).Honors (asking o) known fun _ _ => True := by
    intro ids
    unfold endSa discardGroups
    refine asks_after (only_ask trivial) (fun moved => ?_) fun _ => trivial
    split
    · exact settle_asks task.id hworkflow hasked
    · split
      · exact asks_of_silent (only_ask trivial)
      · trivial
  split
  · exact asks_after (only_storeOr trivial) (fun _ => hmove _) fun _ => trivial
  · exact hmove _

/-- The workflow that a message is about, as it is found. -/
theorem resolve_asks (workflowId taskId : Uuid) :
    (resolve workflowId taskId).Honors (asking o) known fun outcome learnt =>
      ∀ workflow task, outcome = .ok (some (workflow, task)) →
        .workflow workflow ∈ learnt.insights ∧ learnt.asked = known.asked := by
  rw [resolve, honors_bind]
  refine asks_findWorkflow (fun _ _ hnone => by cases hnone) fun workflow _ => ?_
  refine asks_after (only_ask trivial) (fun found => ?_) fun _ _ _ herror => by cases herror
  cases found with
  | none =>
    intro _ _ hnone
    cases hnone
  | some task =>
    intro found other houtcome
    split at houtcome
    · cases houtcome
      exact ⟨List.mem_cons_self, rfl⟩
    · cases houtcome

theorem process_asks (message : Completion) (hasked : known.asked = []) :
    (o.process message).Honors (asking o) known fun _ _ => True := by
  cases message with
  | compile message =>
    change Honors _ (_ >>= _) _ _
    rw [honors_bind]
    refine asks_findWorkflow trivial fun workflow _ => ?_
    change Honors _ (if _ then _ else _) _ _
    split
    · trivial
    split
    · exact asks_of_silent (finish_silent workflow.id .aborted)
    split
    · trivial
    refine asks_after (only_ask trivial) (fun found => ?_) fun _ => trivial
    cases found with
    | none => trivial
    | some task => exact acceptArtifact_asks task _ List.mem_cons_self hasked
  | sa message =>
    change Honors _ (_ >>= _) _ _
    rw [honors_bind]
    apply honors_mono (resolve_asks message.workflowId message.taskId)
    intro outcome learnt houtcome
    rcases outcome with e | _ | ⟨workflow, task⟩
    · trivial
    · trivial
    obtain ⟨hworkflow, hsame⟩ := houtcome workflow task rfl
    change Honors _ (if _ then _ else _) _ _
    split
    · trivial
    split
    · exact resettle_asks task hworkflow (hsame.trans hasked)
    · exact acceptFindings_asks task message hworkflow (hsame.trans hasked)
  | ml message =>
    change Honors _ (_ >>= _) _ _
    rw [honors_bind]
    apply honors_mono (resolve_asks message.workflowId message.taskId)
    intro outcome learnt houtcome
    rcases outcome with e | _ | ⟨workflow, task⟩
    · trivial
    · trivial
    obtain ⟨hworkflow, hsame⟩ := houtcome workflow task rfl
    change Honors _ (if _ then _ else _) _ _
    split
    · trivial
    split
    · exact resettle_asks task hworkflow (hsame.trans hasked)
    refine asks_after (only_ask trivial) (fun now => ?_) fun _ => trivial
    dsimp only
    split
    · trivial
    refine asks_after (only_ask trivial) (fun moved => ?_) fun _ => trivial
    split
    · exact settle_asks task.id hworkflow (hsame.trans hasked)
    · trivial

/-! ### Submissions -/

theorem dispatchFirst_asks {workflow : Workflow}
    (hworkflow : .workflow workflow ∈ known.insights)
    (hcreated : .created workflow.id ∈ known.insights) (hasked : known.asked = []) :
    (o.dispatchFirst workflow).Honors (asking o) known fun _ _ => True := by
  unfold dispatchFirst
  split
  · trivial
  rename_i stage hnext
  have hdispatch : (o.dispatch stage workflow).Honors (asking o) known fun _ _ => True := by
    cases stage with
    | compile =>
      exact dispatchCompile_asks hworkflow hcreated (Workflow.nextStage?_eq_compile hnext).2 hasked
    | analysis => exact dispatchAnalysis_asks hworkflow hasked
  rw [honors_bind, honors_attempt]
  apply honors_mono hdispatch
  intro outcome learnt _
  cases outcome with
  | ok _ => trivial
  | error e =>
    exact asks_of_silent (only_bind (finish_silent workflow.id .aborted) fun _ => trivial)

theorem start_asks (submission : Submission) (hasked : known.asked = []) :
    (o.start submission).Honors (asking o) known fun _ _ => True := by
  unfold start
  refine asks_after (only_require trivial) (fun code => ?_) fun _ => trivial
  dsimp only
  cases hlimits : refuseFaults (submission.limits.getD o.defaultLimits).faults with
  | error e => trivial
  | ok _ =>
    have hlimits := refuseFaults_eq_ok hlimits
    change Honors _ (resolveTarget code _ >>= _) _ _
    refine asks_after (resolveTarget_only code _ fun _ => trivial) (fun target => ?_)
      fun _ => trivial
    have hcreate : ∀ templateId : Option Uuid,
        (o.createFresh submission code target templateId).Honors (asking o) known
          fun _ _ => True := by
      intro templateId
      refine asks_after (only_newId trivial) (fun taskId => ?_) fun _ => trivial
      refine asks_after (only_ask trivial) (fun taskMoment => ?_) fun _ => trivial
      refine asks_after (only_newId trivial) (fun workflowId => ?_) fun _ => trivial
      refine asks_after (only_ask trivial) (fun now => ?_) fun _ => trivial
      dsimp only
      rw [honors_bind]
      refine asks_createWorkflow hlimits (fun _ => trivial) ?_
      change Honors _ (_ >>= _) _ _
      rw [honors_bind]
      refine honors_mono (dispatchFirst_asks (List.mem_cons_of_mem _ List.mem_cons_self)
        List.mem_cons_self hasked) ?_
      intro outcome learnt _
      cases outcome with
      | ok _ => exact asks_of_silent (only_require trivial)
      | error e => trivial
    split
    · exact asks_after (resolveTemplate_only _ (fun _ => trivial) trivial) (fun _ => hcreate _)
        fun _ => trivial
    · exact hcreate none

end Orchestrator

end ScanFlow
