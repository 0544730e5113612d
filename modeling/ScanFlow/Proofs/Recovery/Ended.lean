import ScanFlow.Proofs.Recovery.Analysis
import ScanFlow.Proofs.Recovery.Compilation

/-!
Engine runs that have ended stay ended.

A run is moved by a conditional write that names the status it starts from, and no service
names a status that is terminal. Only the binding of an analysis writes both runs without
such a condition. A dispatch reads the task right before it binds, starts the runs that are
pending, and takes over the others as they are. So whatever services follow, a run that has
ended has ended for good.
-/

namespace ScanFlow

/-- A call that moves no run that has ended, and binds no runs. -/
def Call.Firm {α : Type} (call : Call α) : Prop :=
  match call with
  | .store (.moveSa _ expected _) => expected.isTerminal = false
  | .store (.moveMl _ expected _) => expected.isTerminal = false
  | .store (.bindAnalysis _ _) => False
  | _ => True

theorem Call.Mild.firm {α : Type} {call : Call α} (hmild : call.Mild) : call.Firm := by
  cases call with
  | store operation =>
    cases operation with
    | moveSa | moveMl | bindAnalysis => exact hmild.elim
    | _ => trivial
  | _ => trivial

def Completion.EndedIn (message : Completion) (task : Task) : Prop :=
  (message.run? task).any RunStatus.isTerminal = true

theorem Completion.EndedIn.onTask {α : Type} {operation : Store.Operation α}
    {message : Completion} {task : Task} (hended : message.EndedIn task)
    (hfirm : (Call.store operation).Firm) (now : Timestamp) :
    message.EndedIn (operation.onTask now task) := by
  suffices hsame : message.run? (operation.onTask now task) = message.run? task by
    rwa [EndedIn, hsame]
  refine Store.Operation.changed_keeps message.run? task fun id change h next hnext => ?_
  cases operation with
  | setArtifact =>
    obtain ⟨rfl, rfl⟩ := Prod.mk.inj (Option.some.inj h)
    rw [(Task.withArtifact?_eq_some hnext).2]
    cases message <;> rfl
  | moveSa _ expected _ =>
    obtain ⟨rfl, rfl⟩ := Prod.mk.inj (Option.some.inj h)
    obtain ⟨hstatus, rfl⟩ := Task.withSa?_eq_some hnext
    have hopen : expected.isTerminal = false := hfirm
    cases message with
    | sa =>
      have hterminal : task.sa.status.isTerminal = true := hended
      rw [hstatus, hopen] at hterminal
      cases hterminal
    | _ => rfl
  | moveMl _ expected _ =>
    obtain ⟨rfl, rfl⟩ := Prod.mk.inj (Option.some.inj h)
    obtain ⟨hstatus, rfl⟩ := Task.withMl?_eq_some hnext
    have hopen : expected.isTerminal = false := hfirm
    cases message with
    | ml =>
      have hterminal : task.ml.status.isTerminal = true := hended
      rw [hstatus, hopen] at hterminal
      cases hterminal
    | _ => rfl
  | claimMerge =>
    obtain ⟨rfl, rfl⟩ := Prod.mk.inj (Option.some.inj h)
    rw [(Task.withClaim?_eq_some hnext).2.2]
    cases message <;> rfl
  | storeSummary | setAuditCount =>
    obtain ⟨rfl, rfl⟩ := Prod.mk.inj (Option.some.inj h)
    cases hnext
    cases message <;> rfl
  | bindAnalysis => exact hfirm.elim
  | _ => cases h

namespace System

structure Ended (system : System) (message : Completion) (id : Uuid) : Prop where
  keyed : system.store.Keyed
  ended : ∃ task, system.store.tasks.get? id = some task ∧ message.EndedIn task

namespace Ended

variable {β : Type} {system : System} {message : Completion} {id : Uuid}

theorem store {operation : Store.Operation β} (hended : system.Ended message id)
    (now : Timestamp) (hkept : ∀ task, system.store.tasks.get? id = some task →
      message.EndedIn task → message.EndedIn (operation.onTask now task)) :
    { system with store := (operation.perform now system.store).2 : System }.Ended message
      id := by
  obtain ⟨hkeyed, task, hfound, hterminal⟩ := hended
  have hid := hkeyed.tasks id task hfound
  subst hid
  exact ⟨hkeyed.perform operation, _, operation.get?_perform_task now hkeyed hfound,
    hkept task hfound hterminal⟩

theorem perform (hended : system.Ended message id) {call : Call β} (hfirm : call.Firm)
    (env : Environment) : (call.perform env system).2.Ended message id := by
  cases call with
  | store operation =>
    exact hended.store env.now fun _ _ hterminal => hterminal.onTask hfirm env.now
  | publish queue payload =>
    simp only [Call.perform, System.publish]
    split
    · exact hended
    · exact ⟨hended.keyed, hended.ended⟩
  | clock | reserve | blobExists | blobUrl => exact ⟨hended.keyed, hended.ended⟩

/-- Runs that are bound to the task that has just been read do not take back an end. -/
theorem bindAnalysis (hended : system.Ended message id) {task : Task} {binding : AnalysisBinding}
    (hread : system.store.tasks.get? task.id = some task)
    (hsa : task.sa.status.isTerminal = true → binding.sa = task.sa)
    (hml : task.ml.status.isTerminal = true → binding.ml = task.ml) (env : Environment) :
    ((Call.store (.bindAnalysis task.id binding)).perform env system).2.Ended message id := by
  refine hended.store env.now fun found hfound hterminal => ?_
  have hid := hended.keyed.tasks id found hfound
  simp only [Store.Operation.onTask, Store.Operation.taskChange?, Store.Operation.changed]
  split
  · rename_i hsame
    have hfound : found = task := by
      rw [← hid, ← hsame, hread] at hfound
      exact (Option.some.inj hfound).symm
    subst hfound
    cases hbound : found.withAnalysis? binding env.now with
    | none => exact hterminal
    | some next =>
      rw [(Task.withAnalysis?_eq_some hbound).2]
      cases message with
      | compile => exact hterminal
      | sa =>
        change binding.sa.status.isTerminal = true
        rw [hsa hterminal]
        exact hterminal
      | ml =>
        change binding.ml.status.isTerminal = true
        rw [hml hterminal]
        exact hterminal
  · exact hterminal

end Ended

end System

namespace Orchestrator

open Program

variable {α : Type} {o : Orchestrator} {system : System} {message : Completion} {id : Uuid}

theorem firm_preserves {program : Program α} (hfirm : program.Only Call.Firm) :
    program.Preserves fun system => system.Ended message id :=
  preserves_of_only (fun _ env _ hfirm hended => hended.perform hfirm env) hfirm

theorem mild_preserves {program : Program α} (hmild : program.Only Call.Mild) :
    program.Preserves fun system => system.Ended message id :=
  firm_preserves (only_mono hmild fun _ hcall => hcall.firm)

theorem finish_preserves (workflowId : Uuid) (status : Workflow.Status) :
    (Program.finish workflowId status).Preserves fun system => system.Ended message id :=
  firm_preserves (only_bind (only_ask trivial) fun _ => trivial)

/-! ### Dispatching -/

theorem requestAnalysis_ended {task : Task} (workflow : Workflow) (kind : Task.Kind)
    (snapshot : TemplateSnapshot) (hended : system.Ended message id)
    (hread : system.store.tasks.get? task.id = some task) :
    (o.requestAnalysis workflow task kind snapshot).Through
      (fun system => system.Ended message id) system
        fun _ final => final.Ended message id := by
  have hsends : ∀ requests : List EngineRequest, (requests.forM fun request => do
      let _ ← Program.sendRequest request).Only Call.Firm :=
    fun requests => sendAll_only requests fun _ _ => trivial
  refine requestAnalysis_through hended (fun _ => hended) ?_
  intro url sa ml hbinds env
  have hbound : ((Call.store (.bindAnalysis task.id { kind, snapshot, sa, ml })).perform env
      system).2.Ended message id :=
    hended.bindAnalysis hread hbinds.sa_of_terminal hbinds.ml_of_terminal env
  refine ⟨hbound, ?_⟩
  change Through _ (if _ then _ else _) _ _
  split
  · refine preserves_bind (firm_preserves (hsends _)) (fun _ => ?_) _ hbound
    exact fun _ hended => hended
  · exact hbound

theorem dispatchAnalysis_ended (workflow : Workflow) :
    (o.dispatchAnalysis workflow).Preserves fun system => system.Ended message id := by
  intro system hended
  unfold dispatchAnalysis
  rw [through_bind, Program.task, require, through_bind]
  refine through_read (fun _ _ => rfl) hended ?_
  intro now
  rw [Store.Operation.perform]
  cases hfound : system.store.tasks.get? workflow.taskId with
  | none => exact hended
  | some task =>
    have hread : system.store.tasks.get? task.id = some task := by
      rw [hended.keyed.tasks _ task hfound, hfound]
    change Through _ (if _ then _ else _) _ _
    split
    · exact hended
    split
    · exact hended
    rw [through_bind]
    apply captureRules_through workflow hended
    intro outcome
    cases outcome with
    | error e => exact hended
    | ok captured =>
      cases captured with
      | none =>
        exact firm_preserves (abortWithoutRules_only workflow task _ trivial
          (fun _ _ hfinished => RunStatus.open_of_canBecome (SaRun.finished_eq_ok hfinished).1)
          (fun _ _ hfinished => RunStatus.open_of_canBecome (MlRun.finished_eq_ok hfinished).1)
          trivial) system hended
      | some snapshot => exact requestAnalysis_ended workflow _ snapshot hended hread

theorem dispatch_ended (stage : Stage) (workflow : Workflow) :
    (o.dispatch stage workflow).Preserves fun system => system.Ended message id := by
  cases stage with
  | compile =>
    apply firm_preserves
    refine only_bind (only_require trivial) fun code => ?_
    refine only_bind (only_require trivial) fun source => ?_
    refine only_bind (only_blobUrl trivial) fun url => ?_
    exact only_bind (only_sendRequest trivial) fun _ => trivial
  | analysis => exact dispatchAnalysis_ended workflow

theorem chain_ended (workflow : Workflow) :
    (o.chain workflow).Preserves fun system => system.Ended message id := by
  unfold chain
  split
  · exact fun _ hended => hended
  · split
    · exact fun _ hended => hended
    · apply preserves_bind (preserves_attempt (dispatch_ended _ workflow))
      intro outcome
      cases outcome with
      | ok _ => exact fun _ hended => hended
      | error e => exact finish_preserves workflow.id .aborted

/-! ### Processing messages -/

theorem conclude_ended (workflow : Workflow) (task : Task) :
    (o.conclude workflow task).Preserves fun system => system.Ended message id :=
  firm_preserves (conclude_only workflow task (fun _ => trivial) trivial (fun _ _ => trivial)
    fun _ => trivial)

theorem settle_ended (workflow : Workflow) (taskId : Uuid) :
    (o.settle workflow taskId).Preserves fun system => system.Ended message id := by
  unfold settle
  apply preserves_bind
  · exact firm_preserves (advance_only workflow trivial (fun _ => trivial) trivial)
  · intro current
    refine preserves_bind (firm_preserves (only_ask trivial)) ?_
    intro found
    cases found with
    | none => exact fun _ hended => hended
    | some task =>
      apply preserves_bind (conclude_ended current task)
      intro _
      split
      · exact fun _ hended => hended
      · exact chain_ended current

theorem resettle_ended (workflow : Workflow) (task : Task) :
    (o.resettle workflow task).Preserves fun system => system.Ended message id := by
  unfold resettle
  split
  · exact settle_ended workflow task.id
  · exact fun _ hended => hended

theorem acceptArtifact_ended (workflow : Workflow) (task : Task) (artifact : CompileArtifact) :
    (o.acceptArtifact workflow task artifact).Preserves
      fun system => system.Ended message id := by
  unfold acceptArtifact
  refine preserves_bind (firm_preserves (only_storeOr trivial)) ?_
  intro bound
  split
  · refine preserves_bind (firm_preserves (only_newId trivial)) fun fileId => ?_
    refine preserves_bind (firm_preserves (only_ask trivial)) fun created => ?_
    refine preserves_bind (firm_preserves (only_storeOr trivial)) fun _ => ?_
    refine preserves_bind (firm_preserves (only_ask trivial)) fun now => ?_
    refine preserves_bind (firm_preserves (only_ask trivial)) fun advanced => ?_
    cases advanced with
    | none => exact fun _ hended => hended
    | some advanced =>
      dsimp only
      split
      · exact finish_preserves _ _
      · exact chain_ended advanced
  · exact fun _ hended => hended

theorem acceptFindings_ended (workflow : Workflow) (task : Task) (answer : SaFinished) :
    (o.acceptFindings workflow task answer).Preserves fun system => system.Ended message id := by
  unfold acceptFindings
  refine preserves_bind (firm_preserves (only_ask trivial)) fun first => ?_
  refine preserves_bind (firm_preserves (only_ask trivial)) fun now => ?_
  dsimp only
  split
  · exact fun _ hended => hended
  · rename_i next hfinished
    have hopen := RunStatus.open_of_canBecome (SaRun.finished_eq_ok hfinished).1
    have hmove : ∀ (ids : List Uuid), (o.endSa workflow task next
        (discardGroups task.id ids)).Preserves fun system => system.Ended message id := by
      intro ids
      unfold endSa discardGroups
      refine preserves_bind (firm_preserves (only_ask hopen)) ?_
      intro moved
      split
      · exact settle_ended workflow task.id
      · split
        · exact firm_preserves (only_ask trivial)
        · exact fun _ hended => hended
    split
    · exact preserves_bind (firm_preserves (only_storeOr trivial)) fun _ => hmove _
    · exact hmove _

theorem onCompileFinished_ended (answer : CompileFinished) :
    (o.onCompileFinished answer).Preserves fun system => system.Ended message id := by
  refine preserves_bind (firm_preserves (only_ask trivial)) fun found => ?_
  cases found with
  | none => exact fun _ hended => hended
  | some workflow =>
    dsimp only
    split
    · exact fun _ hended => hended
    split
    · exact finish_preserves _ _
    split
    · exact fun _ hended => hended
    refine preserves_bind (firm_preserves (only_ask trivial)) fun found => ?_
    cases found with
    | none => exact fun _ hended => hended
    | some task => exact acceptArtifact_ended workflow task _

theorem onSaFinished_ended (answer : SaFinished) :
    (o.onSaFinished answer).Preserves fun system => system.Ended message id := by
  refine preserves_bind (firm_preserves (resolve_only _ _ (fun _ => trivial) fun _ => trivial)) ?_
  intro found
  cases found with
  | none => exact fun _ hended => hended
  | some found =>
    dsimp only
    split
    · exact fun _ hended => hended
    split
    · exact resettle_ended _ _
    · exact acceptFindings_ended _ _ answer

theorem onMlFinished_ended (answer : MlFinished) :
    (o.onMlFinished answer).Preserves fun system => system.Ended message id := by
  refine preserves_bind (firm_preserves (resolve_only _ _ (fun _ => trivial) fun _ => trivial)) ?_
  intro found
  cases found with
  | none => exact fun _ hended => hended
  | some found =>
    dsimp only
    split
    · exact fun _ hended => hended
    split
    · exact resettle_ended _ _
    refine preserves_bind (firm_preserves (only_ask trivial)) fun now => ?_
    split
    · exact fun _ hended => hended
    · rename_i hfinished
      have hopen := RunStatus.open_of_canBecome (MlRun.finished_eq_ok hfinished).1
      refine preserves_bind (firm_preserves (only_ask hopen)) fun moved => ?_
      split
      · exact settle_ended _ _
      · exact fun _ hended => hended

theorem process_ended (answer : Completion) :
    (o.process answer).Preserves fun system => system.Ended message id := by
  cases answer with
  | compile answer => exact onCompileFinished_ended answer
  | sa answer => exact onSaFinished_ended answer
  | ml answer => exact onMlFinished_ended answer

/-! ### All services -/

theorem start_ended (submission : Submission) :
    (o.start submission).Preserves fun system => system.Ended message id := by
  unfold start
  refine preserves_bind (firm_preserves (only_require trivial)) fun code => ?_
  refine preserves_bind (firm_preserves trivial) fun _ => ?_
  refine preserves_bind (mild_preserves (resolveTarget_mild code _)) fun target => ?_
  have hdispatch : ∀ workflow : Workflow,
      (o.dispatchFirst workflow).Preserves fun system => system.Ended message id := by
    intro workflow
    unfold dispatchFirst
    split
    · exact fun _ hended => hended
    · apply preserves_bind (preserves_attempt (dispatch_ended _ workflow))
      intro outcome
      cases outcome with
      | ok _ => exact fun _ hended => hended
      | error e =>
        exact preserves_bind (finish_preserves workflow.id .aborted) fun _ _ hended => hended
  have hcreate : ∀ templateId : Option Uuid,
      (o.createFresh submission code target templateId).Preserves fun system =>
        system.Ended message id := by
    intro templateId
    refine preserves_bind (firm_preserves (only_newId trivial)) fun taskId => ?_
    refine preserves_bind (firm_preserves (only_ask trivial)) fun taskMoment => ?_
    refine preserves_bind (firm_preserves (only_newId trivial)) fun workflowId => ?_
    refine preserves_bind (firm_preserves (only_ask trivial)) fun now => ?_
    refine preserves_bind (firm_preserves (only_storeOr trivial)) fun _ => ?_
    exact preserves_bind (hdispatch _) fun _ => firm_preserves (only_require trivial)
  dsimp only
  split
  · exact preserves_bind (mild_preserves (resolveTemplate_mild _)) fun _ => hcreate _
  · exact hcreate _

end Orchestrator

namespace System

variable {o : Orchestrator} {system next : System} {message : Completion} {id : Uuid}

open Orchestrator

theorem Ended.service (hended : system.Ended message id) (hservice : Service o system next) :
    next.Ended message id := by
  cases hservice with
  | registerCode upload hruns =>
    exact (mild_preserves (registerCode_mild upload)).runs hruns hended
  | start submission hruns => exact (start_ended submission).runs hruns hended
  | process _ hruns => exact (process_ended _).runs hruns hended
  | remerge taskId hruns =>
    exact (mild_preserves (remerge_mild taskId)).runs hruns hended
  | audit taskId findingId request hruns =>
    exact (mild_preserves (auditFinding_mild taskId findingId request)).runs hruns hended
  | putRule rule => exact ⟨hended.keyed.putRule rule, hended.ended⟩
  | putTemplate template => exact ⟨hended.keyed.putTemplate template, hended.ended⟩

/-- Whatever services follow, the run has ended for good. -/
theorem Ended.reaches (hended : system.Ended message id) (hreach : Reaches o system next) :
    next.Ended message id := by
  induction hreach with
  | refl => exact hended
  | step _ hservice ih => exact ih.service hservice

end System

end ScanFlow
