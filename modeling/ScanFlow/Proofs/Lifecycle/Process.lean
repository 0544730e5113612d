import ScanFlow.Proofs.Lifecycle.Reports
import ScanFlow.Proofs.Lifecycle.Settle

/-!
Completion messages lead from phase to phase.

A message is about one workflow. Whatever the message says, whichever phase the workflow is
in, and whether the message comes early, late or again, processing it on its own leaves the
workflow in a phase.
-/

namespace ScanFlow.Orchestrator

open Program

variable {o : Orchestrator} {scene : Scene} {workflow : Workflow}

def InPhase (scene reached : Scene) : Prop :=
  reached.task.kind = scene.task.kind ∧ Phase reached.workflow reached.task

/-! ### The answer of the compiler -/

theorem Analysing.not_compile {task : Task} (h : Analysing workflow task)
    (hsteps : workflow.steps = workflow.shape.steps) :
    workflow.nextStage? ≠ some .compile := by
  intro hstage
  obtain ⟨hprogress, hcompile⟩ := Workflow.nextStage?_eq_compile hstage
  have hkind : workflow.shape.taskKind? ≠ none := by
    intro hnone
    have hawaited := h.awaited
    revert hnone hawaited
    cases workflow.shape <;>
      simp [Shape.taskKind?, someAwaited, Shape.runsSa, Shape.runsMl]
  have htwo : workflow.steps = 2 := by
    rw [hsteps, Shape.steps, two_stages hcompile hkind]
    rfl
  have hsum := h.progress
  split at hsum <;> omega

/-- A running workflow whose next stage is to compile is in its first phase. -/
theorem compiling_of_stage {task : Task} (hmatched : Matched workflow task)
    (hphase : Phase workflow task) (hrunning : workflow.status = .running)
    (hstage : workflow.nextStage? = some .compile) : Compiling workflow task := by
  cases hphase with
  | compiling h => exact h
  | analysing h => exact absurd hstage (Analysing.not_compile h hmatched.steps)
  | completed h => exact absurd (hrunning.symm.trans h.complete) nofun
  | aborted h => exact absurd (hrunning.symm.trans h) nofun

theorem Started.analysing {shape : Shape} {task : Task} (hstarted : Started shape task)
    (hkind : shape.taskKind? ≠ none) :
    someAwaited shape task = true ∧ someEnded shape task = false := by
  have hsa := hstarted.sa
  have hml := hstarted.ml
  cases shape with
  | compile => exact absurd rfl hkind
  | compileSa | sa =>
    simp [someAwaited, someEnded, Shape.runsSa, Shape.runsMl, hsa rfl, RunStatus.isTerminal]
  | ml =>
    simp [someAwaited, someEnded, Shape.runsSa, Shape.runsMl, hml rfl, RunStatus.isTerminal]
  | compileSaMl | saMl =>
    simp [someAwaited, someEnded, Shape.runsSa, Shape.runsMl, hsa rfl, hml rfl,
      RunStatus.isTerminal]

/-- The compile stage is done and its artifact is bound; nothing of the analysis is. -/
structure Compiled (workflow : Workflow) (task : Task) : Prop where
  running : workflow.status = .running
  shape : workflow.shape.runsCompile = true
  target : task.targetKey.isSome
  snapshot : task.snapshot = none
  unclaimed : task.mergeClaimed = false

/-- A shape that compiles has an analysis stage or no engine to run. -/
theorem compile_stages {shape : Shape} (hcompile : shape.runsCompile = true) :
    shape = .compile ∨ shape.stages = [.compile, .analysis] ∧ shape.taskKind? ≠ none := by
  revert hcompile
  cases shape <;> simp [Shape.runsCompile, Shape.stages, Shape.taskKind?, Shape.runsSa,
    Shape.runsMl]

/-- Going on after the compile stage: to the end, or to the analysis. -/
def goOn (o : Orchestrator) (workflow : Workflow) : Program Unit :=
  if workflow.isFullyProgressed then Program.finish workflow.id .complete else o.chain workflow

def advanceCompiled (o : Orchestrator) (workflow : Workflow) : Program Unit := do
  let now ← Program.clock
  match ← Program.store (.advance workflow.id now) with
  | none => return
  | some advanced => o.goOn advanced

theorem goOn_alone (scene : Scene) (hlinked : scene.workflow.taskId = scene.task.id)
    (hmatched : Matched scene.workflow scene.task)
    (hcompiled : Compiled scene.workflow scene.task) (hprogress : scene.workflow.progress = 1) :
    (o.goOn scene.workflow).Keeps alone () scene fun _ _ reached => InPhase scene reached := by
  unfold goOn
  have hsteps := hmatched.steps
  rcases compile_stages hcompiled.shape with hshape | ⟨hstages, hkind⟩
  · rw [hshape] at hsteps
    have hone : scene.workflow.steps = 1 := hsteps
    rw [if_pos (by simp [Workflow.isFullyProgressed, hprogress, hone])]
    apply alone_finish rfl
    intro now
    refine ⟨rfl, .completed ?_⟩
    have hends : scene.workflow.finished? .complete now =
        some { scene.workflow with status := .complete, updatedAt := now } := by
      simp [Workflow.finished?, hcompiled.running, Workflow.Status.canBecome]
    dsimp only
    rw [hends, Option.getD_some]
    refine ⟨rfl, hprogress.trans hone.symm, hcompiled.target, ?_⟩
    change Succeeded scene.workflow.shape scene.task
    rw [hshape]
    constructor
    · intro hsa
      cases hsa
    · intro hml
      cases hml
  · have htwo : scene.workflow.steps = 2 := by
      rw [hsteps, Shape.steps, hstages]
      rfl
    have hleft : scene.workflow.isFullyProgressed = false := by
      simp [Workflow.isFullyProgressed, hprogress, htwo]
    rw [if_neg (by simp [hleft])]
    have hstage : scene.workflow.nextStage? = some .analysis := by
      rw [Workflow.nextStage?, if_neg (by simp [hleft]), hprogress, Shape.stageAt?, hstages]
      rfl
    refine keeps_mono (chain_alone scene ⟨rfl, hlinked, rfl⟩ hcompiled.running hstage hmatched.kind
      hcompiled.snapshot hcompiled.unclaimed) ?_
    rintro _ _ reached ⟨hreached, hends | ⟨hworkflow, _, hstarted⟩⟩
    · obtain ⟨now, hends⟩ := hends
      refine ⟨hreached, .aborted ?_⟩
      rw [hends, abortedAt_status]
      rw [hcompiled.running]
      intro hcomplete
      cases hcomplete
    · obtain ⟨hawaited, hended⟩ := hstarted.analysing hkind
      refine ⟨hreached, .analysing ?_⟩
      rw [hworkflow]
      refine ⟨hcompiled.running, hstarted.dispatched, hawaited, ?_⟩
      rw [hprogress, htwo, if_neg (by simp [hended])]

theorem advanceCompiled_alone (scene : Scene) (hlinked : scene.workflow.taskId = scene.task.id)
    (hmatched : Matched scene.workflow scene.task)
    (hcompiled : Compiled scene.workflow scene.task) (hprogress : scene.workflow.progress = 0) :
    (o.advanceCompiled scene.workflow).Keeps alone () scene
      fun _ _ reached => InPhase scene reached := by
  have hless : scene.workflow.progress < scene.workflow.steps := by
    rw [hprogress, hmatched.steps]
    cases scene.workflow.shape <;> simp [Shape.steps, Shape.stages]
  unfold advanceCompiled
  rw [keeps_bind]
  apply alone_clock
  intro moment
  change Keeps _ (_ >>= _) _ _ _
  rw [keeps_bind]
  apply alone_advance rfl
  rw [Workflow.advanced?_eq_stepped hcompiled.running hless]
  refine goOn_alone { scene with workflow := scene.workflow.stepped moment } hlinked
    ⟨hmatched.steps, hmatched.kind⟩ ?_ ?_
  · exact ⟨hcompiled.running, hcompiled.shape, hcompiled.target, hcompiled.snapshot,
      hcompiled.unclaimed⟩
  · simp [Workflow.stepped, hprogress]

theorem acceptArtifact_alone (hlinked : scene.workflow.taskId = scene.task.id)
    (hmatched : Matched scene.workflow scene.task)
    (hphase : Compiling scene.workflow scene.task) (artifact : CompileArtifact) :
    (o.acceptArtifact scene.workflow scene.task artifact).Keeps alone () scene
      fun _ _ reached => InPhase scene reached := by
  unfold acceptArtifact
  dsimp only
  rw [keeps_bind]
  apply alone_setArtifact rfl
  intro now
  obtain ⟨bound, hbound⟩ : ∃ bound, scene.task.withArtifact? artifact.name artifact.objectKey
      (if scene.workflow.shape.runsSa then some compiledProgress else none) now = some bound := by
    simp [Task.withArtifact?, hphase.target]
  have hsame := (Task.withArtifact?_eq_some hbound).2
  rw [hbound]
  change Keeps _ (_ >>= _) _ _ _
  rw [keeps_bind]
  apply alone_newId
  intro id
  change Keeps _ (_ >>= _) _ _ _
  rw [keeps_bind]
  apply alone_clock
  intro created
  change Keeps _ (_ >>= _) _ _ _
  rw [keeps_bind]
  apply alone_registerCompiled (by rw [hsame]; rfl)
  intro added
  have hkind : bound.kind = scene.task.kind := by rw [hsame]
  refine keeps_mono (advanceCompiled_alone
    { scene with task := bound, nextNumber := scene.nextNumber + 1 } ?_ ?_ ?_ ?_) ?_
  · rw [hsame]
    exact hlinked
  · exact ⟨hmatched.steps, hkind.trans hmatched.kind⟩
  · rw [hsame]
    exact ⟨hphase.running, hphase.shape, rfl, hphase.snapshot, hphase.unclaimed⟩
  · exact hphase.progress
  · rintro _ _ reached ⟨hreached, hin⟩
    exact ⟨hreached.trans hkind, hin⟩

theorem onCompileFinished_alone (hlinked : scene.workflow.taskId = scene.task.id)
    (hmatched : Matched scene.workflow scene.task) (hphase : Phase scene.workflow scene.task)
    (message : CompileFinished) (hmessage : message.workflowId = scene.workflow.id) :
    (o.onCompileFinished message).Keeps alone () scene
      fun _ _ reached => InPhase scene reached := by
  unfold onCompileFinished
  rw [keeps_bind]
  apply alone_findWorkflow hmessage
  unfold Follows
  dsimp only
  split
  · exact ⟨rfl, hphase⟩
  rename_i hguard
  simp only [ne_eq, Bool.or_eq_true, Bool.not_eq_true', decide_eq_true_eq, not_or,
    Bool.not_eq_false, Decidable.not_not, Workflow.isRunning_iff] at hguard
  obtain ⟨hrunning, hstage⟩ := hguard
  have hcompiling := compiling_of_stage hmatched hphase hrunning hstage
  split
  · apply alone_finish rfl
    intro now
    refine ⟨rfl, .aborted ?_⟩
    exact abortedAt_status (hrunning ▸ nofun)
  · split
    · exact ⟨rfl, hphase⟩
    · rw [keeps_bind]
      apply alone_findTask hlinked
      exact acceptArtifact_alone hlinked hmatched hcompiling _

/-! ### The answers of the engines -/

theorem resolve_only {allowed : {β : Type} → Call β → Prop} (workflowId taskId : Uuid)
    (hworkflow : ∀ id, allowed (.store (.findWorkflow id)))
    (htask : ∀ id, allowed (.store (.findTask id))) :
    (resolve workflowId taskId).Only allowed := by
  refine only_bind (only_ask (hworkflow _)) fun workflow => ?_
  cases workflow with
  | none => trivial
  | some workflow =>
    refine only_bind (only_ask (htask _)) fun task => ?_
    cases task with
    | none => trivial
    | some task => trivial

/-- The workflow and the task of the scene, or nothing if the message names another task. -/
theorem resolve_alone {workflowId taskId : Uuid}
    {post : Except ServiceError (Option (Workflow × Task)) → Unit → Scene → Prop}
    (hlinked : scene.workflow.taskId = scene.task.id)
    (hworkflow : workflowId = scene.workflow.id)
    (hown : post (.ok (some (scene.workflow, scene.task))) () scene)
    (hnone : post (.ok none) () scene) :
    (resolve workflowId taskId).Keeps alone () scene post := by
  unfold resolve
  rw [keeps_bind]
  apply alone_findWorkflow hworkflow
  change Keeps _ (_ >>= _) _ _ _
  rw [keeps_bind]
  refine alone_store trivial ?_
  rintro now found ⟨hfound, hids⟩
  cases found with
  | none => exact hnone
  | some task =>
    have htask : task.id = taskId := hids task rfl
    by_cases hid : taskId = scene.task.id
    · have hsame : task = scene.task := Option.some.inj (hfound hid)
      change post (.ok (if scene.workflow.taskId = task.id then _ else _)) () _
      rw [hsame, if_pos hlinked]
      exact hown
    · change post (.ok (if scene.workflow.taskId = task.id then _ else _)) () _
      rw [htask, hlinked, if_neg (Ne.symm hid)]
      exact hnone

/-- When settling a workflow leads to a phase: it has ended, or an engine of its dispatched
analysis has answered, or an engine has failed before the compiler has answered. -/
inductive Settling (workflow : Workflow) (task : Task) : Prop where
  | aborted (h : workflow.status = .aborted)
  | dispatched (hrunning : workflow.status = .running)
      (hprogress : workflow.progress + 1 = workflow.steps ∨ workflow.progress = workflow.steps)
      (hdispatched : Dispatched workflow.shape task)
      (hended : someEnded workflow.shape task = true)
  | premature (hrunning : workflow.status = .running) (hprogress : workflow.progress = 0)
      (hshape : workflow.shape.runsCompile = true) (hsnapshot : task.snapshot = none)
      (htarget : task.targetKey = none) (hclaim : task.mergeClaimed = false)
      (hsa : task.sa.status ≠ .success) (hml : task.ml.status ≠ .success)

theorem settle_inPhase (scene : Scene) (hlinked : scene.workflow.taskId = scene.task.id)
    (hmatched : Matched scene.workflow scene.task) (hkind : scene.task.kind ≠ none)
    (hsettling : Settling scene.workflow scene.task) :
    (o.settle scene.workflow scene.task.id).Keeps alone () scene
      fun _ _ reached => InPhase scene reached := by
  cases hsettling with
  | aborted h =>
    apply keeps_mono (settle_aborted h)
    rintro _ _ reached ⟨hreached, hends⟩
    exact ⟨hreached, .aborted hends⟩
  | dispatched hrunning hprogress hdispatched hended =>
    exact settle_dispatched hmatched hrunning hprogress hdispatched hended
  | premature hrunning hprogress hshape hsnapshot htarget hclaim hsa hml =>
    refine keeps_mono (settle_premature hlinked hmatched hrunning hprogress hshape hkind
      hsnapshot htarget hclaim hsa hml) ?_
    rintro _ _ reached ⟨hreached, hends⟩
    exact ⟨hreached, .aborted hends⟩

theorem isTerminal_of_ended {status : RunStatus} {succeeded : Bool}
    (h : status = .ofSuccess succeeded) : status.isTerminal = true := by
  cases succeeded with
  | true => rw [h]; rfl
  | false => rw [h]; rfl

/-- A run that waits for its start can only end in failure. -/
theorem failed_of_pending {succeeded : Bool}
    (hmay : RunStatus.pending.canBecome (.ofSuccess succeeded) = true) :
    RunStatus.ofSuccess succeeded = .exception := by
  cases succeeded with
  | true => cases hmay
  | false => rfl

theorem progress_of_analysing {task : Task} (h : Analysing workflow task) :
    workflow.progress + 1 = workflow.steps ∨ workflow.progress = workflow.steps := by
  have hsum := h.progress
  split at hsum
  · exact Or.inr (by omega)
  · exact Or.inl (by omega)

/-- The static analysis has just been ended by a message. -/
theorem settling_of_sa {task : Task} {next : SaRun} {now : Timestamp} {succeeded : Bool}
    (hphase : Phase workflow task) (hruns : workflow.shape.runsSa = true)
    (hmay : task.sa.status.canBecome (.ofSuccess succeeded) = true)
    (hnext : next.status = .ofSuccess succeeded) :
    Settling workflow
      { task with sa := next, weaknessCount := next.weaknessCount, updatedAt := now } := by
  have hterminal := isTerminal_of_ended hnext
  cases hphase with
  | compiling h =>
    rw [h.sa] at hmay
    refine .premature h.running h.progress h.shape h.snapshot h.target h.unclaimed ?_ ?_
    · rw [hnext, failed_of_pending hmay]
      nofun
    · rw [h.ml]
      nofun
  | analysing h =>
    refine .dispatched h.running (progress_of_analysing h) ?_ ?_
    · refine ⟨h.dispatched.target, h.dispatched.snapshot, ?_, h.dispatched.ml,
        h.dispatched.unclaimed⟩
      intro _ hpending
      rw [hpending] at hterminal
      cases hterminal
    · simp [someEnded, hruns, hterminal]
  | completed h =>
    rw [h.succeeded.sa hruns] at hmay
    cases hmay
  | aborted h => exact .aborted h

/-- The machine-learning run has just been ended by a message. -/
theorem settling_of_ml {task : Task} {next : MlRun} {now : Timestamp} {succeeded : Bool}
    (hphase : Phase workflow task) (hruns : workflow.shape.runsMl = true)
    (hmay : task.ml.status.canBecome (.ofSuccess succeeded) = true)
    (hnext : next.status = .ofSuccess succeeded) :
    Settling workflow { task with ml := next, updatedAt := now } := by
  have hterminal := isTerminal_of_ended hnext
  cases hphase with
  | compiling h =>
    rw [h.ml] at hmay
    refine .premature h.running h.progress h.shape h.snapshot h.target h.unclaimed ?_ ?_
    · rw [h.sa]
      nofun
    · rw [hnext, failed_of_pending hmay]
      nofun
  | analysing h =>
    refine .dispatched h.running (progress_of_analysing h) ?_ ?_
    · refine ⟨h.dispatched.target, h.dispatched.snapshot, h.dispatched.sa, ?_,
        h.dispatched.unclaimed⟩
      intro _ hpending
      rw [hpending] at hterminal
      cases hterminal
    · simp [someEnded, hruns, hterminal]
  | completed h =>
    rw [h.succeeded.ml hruns] at hmay
    cases hmay
  | aborted h => exact .aborted h

/-- A workflow is settled again after a message for an engine run that has ended before. -/
theorem resettle_alone (hlinked : scene.workflow.taskId = scene.task.id)
    (hmatched : Matched scene.workflow scene.task) (hkind : scene.task.kind ≠ none)
    (hphase : Phase scene.workflow scene.task)
    (hended : someEnded scene.workflow.shape scene.task = true) :
    (o.resettle scene.workflow scene.task).Keeps alone () scene
      fun _ _ reached => InPhase scene reached := by
  unfold resettle
  split
  · rename_i hrunning
    rw [Workflow.isRunning_iff] at hrunning
    apply settle_inPhase scene hlinked hmatched hkind
    cases hphase with
    | compiling h => simp [someEnded, h.sa, h.ml, RunStatus.isTerminal] at hended
    | analysing h =>
      exact .dispatched hrunning (progress_of_analysing h) h.dispatched hended
    | completed h => exact absurd (hrunning.symm.trans h.complete) nofun
    | aborted h => exact .aborted h
  · exact ⟨rfl, hphase⟩

theorem kind_ne_none_of_runsSa {task : Task} (hruns : task.runsSa = true) : task.kind ≠ none := by
  intro hnone
  rw [Task.runsSa, hnone] at hruns
  cases hruns

theorem kind_ne_none_of_runsMl {task : Task} (hruns : task.runsMl = true) : task.kind ≠ none := by
  intro hnone
  rw [Task.runsMl, hnone] at hruns
  cases hruns

/-- Ending the static analysis, and settling the workflow unless somebody else has ended it. -/
def endSa (o : Orchestrator) (workflow : Workflow) (task : Task) (next : SaRun)
    (otherwise : Program Unit) : Program Unit := do
  if ← Program.store (.moveSa task.id task.sa.status next) then o.settle workflow task.id
  else otherwise

def endMl (o : Orchestrator) (workflow : Workflow) (task : Task) (next : MlRun)
    (otherwise : Program Unit) : Program Unit := do
  if ← Program.store (.moveMl task.id task.ml.status next) then o.settle workflow task.id
  else otherwise

def discardGroups (taskId : Uuid) (ids : List Uuid) : Program Unit :=
  if !ids.isEmpty then Program.store (.deleteGroups taskId ids) else return

theorem endSa_alone (hlinked : scene.workflow.taskId = scene.task.id)
    (hmatched : Matched scene.workflow scene.task) (hphase : Phase scene.workflow scene.task)
    (hruns : scene.task.runsSa = true) {next : SaRun} {succeeded : Bool}
    (hmay : scene.task.sa.status.canBecome (.ofSuccess succeeded) = true)
    (hnext : next.status = .ofSuccess succeeded) (otherwise : Program Unit) :
    (o.endSa scene.workflow scene.task next otherwise).Keeps alone () scene
      fun _ _ reached => InPhase scene reached := by
  unfold endSa
  rw [keeps_bind]
  apply alone_moveSa rfl
  intro now
  have hmoved : scene.task.withSa? scene.task.sa.status next now = some
      { scene.task with
        sa := next, weaknessCount := next.weaknessCount, updatedAt := now } := if_pos rfl
  rw [hmoved]
  refine settle_inPhase { scene with
    task := { scene.task with
      sa := next, weaknessCount := next.weaknessCount, updatedAt := now } } hlinked
        ⟨hmatched.steps, hmatched.kind⟩ (kind_ne_none_of_runsSa hruns) ?_
  exact settling_of_sa hphase (hmatched.runsSa ▸ hruns) hmay hnext

theorem endMl_alone (hlinked : scene.workflow.taskId = scene.task.id)
    (hmatched : Matched scene.workflow scene.task) (hphase : Phase scene.workflow scene.task)
    (hruns : scene.task.runsMl = true) {next : MlRun} {succeeded : Bool}
    (hmay : scene.task.ml.status.canBecome (.ofSuccess succeeded) = true)
    (hnext : next.status = .ofSuccess succeeded) (otherwise : Program Unit) :
    (o.endMl scene.workflow scene.task next otherwise).Keeps alone () scene
      fun _ _ reached => InPhase scene reached := by
  unfold endMl
  rw [keeps_bind]
  apply alone_moveMl rfl
  intro now
  have hmoved : scene.task.withMl? scene.task.ml.status next now = some
      { scene.task with ml := next, updatedAt := now } := if_pos rfl
  rw [hmoved]
  refine settle_inPhase { scene with
    task := { scene.task with ml := next, updatedAt := now } } hlinked
        ⟨hmatched.steps, hmatched.kind⟩ (kind_ne_none_of_runsMl hruns) ?_
  exact settling_of_ml hphase (hmatched.runsMl ▸ hruns) hmay hnext

theorem acceptFindings_alone (hlinked : scene.workflow.taskId = scene.task.id)
    (hmatched : Matched scene.workflow scene.task) (hphase : Phase scene.workflow scene.task)
    (hruns : scene.task.runsSa = true) (message : SaFinished) :
    (o.acceptFindings scene.workflow scene.task message).Keeps alone () scene
      fun _ _ reached => InPhase scene reached := by
  unfold acceptFindings
  dsimp only
  rw [keeps_bind]
  apply alone_reserve
  change Keeps _ (_ >>= _) _ _ _
  rw [keeps_bind]
  apply alone_clock
  intro now
  unfold Follows
  dsimp only
  split
  · exact ⟨rfl, hphase⟩
  rename_i next hfinished
  obtain ⟨hmay, hnext⟩ := SaRun.finished_eq_ok hfinished
  have hstatus : next.status = .ofSuccess message.success := by rw [hnext]
  -- Neither the numbers that were taken nor the groups that were stored matter to the move.
  have hmove : ∀ (met : Scene) (otherwise : Program Unit), met.workflow = scene.workflow →
      met.task = scene.task →
      (o.endSa scene.workflow scene.task next otherwise).Keeps alone () met
        fun _ _ reached => InPhase scene reached := by
    intro met otherwise hworkflow htask
    rw [← hworkflow, ← htask] at hlinked hmatched hphase
    rw [← htask] at hruns hmay
    have hkeeps := endSa_alone (o := o) hlinked hmatched hphase hruns hmay hstatus otherwise
    unfold InPhase at hkeeps ⊢
    rwa [hworkflow, htask] at hkeeps
  split
  · rw [keeps_bind]
    refine alone_storeOr ?_ ?_ fun _ _ _ => ⟨rfl, hphase⟩
    · intro report member
      obtain ⟨n, _, hless, hid⟩ := mem_numbered.mp (storedReports_group_id member)
      exact ⟨n, hless, hid⟩
    · intro moment _ _
      exact hmove _ _ rfl rfl
  · exact hmove _ _ rfl rfl

theorem onSaFinished_alone (hlinked : scene.workflow.taskId = scene.task.id)
    (hmatched : Matched scene.workflow scene.task) (hphase : Phase scene.workflow scene.task)
    (message : SaFinished) (hmessage : message.workflowId = scene.workflow.id) :
    (o.onSaFinished message).Keeps alone () scene fun _ _ reached => InPhase scene reached := by
  unfold onSaFinished
  rw [keeps_bind]
  refine resolve_alone hlinked hmessage ?_ ⟨rfl, hphase⟩
  unfold Follows
  dsimp only
  split
  · exact ⟨rfl, hphase⟩
  · rename_i hguard
    have hruns : scene.task.runsSa = true := by simpa using hguard
    split
    · rename_i hterminal
      apply resettle_alone hlinked hmatched (kind_ne_none_of_runsSa hruns) hphase
      simp [someEnded, ← hmatched.runsSa, hruns, hterminal]
    · exact acceptFindings_alone hlinked hmatched hphase hruns message

theorem onMlFinished_alone (hlinked : scene.workflow.taskId = scene.task.id)
    (hmatched : Matched scene.workflow scene.task) (hphase : Phase scene.workflow scene.task)
    (message : MlFinished) (hmessage : message.workflowId = scene.workflow.id) :
    (o.onMlFinished message).Keeps alone () scene fun _ _ reached => InPhase scene reached := by
  unfold onMlFinished
  rw [keeps_bind]
  refine resolve_alone hlinked hmessage ?_ ⟨rfl, hphase⟩
  unfold Follows
  dsimp only
  split
  · exact ⟨rfl, hphase⟩
  · rename_i hguard
    have hruns : scene.task.runsMl = true := by simpa using hguard
    split
    · rename_i hterminal
      apply resettle_alone hlinked hmatched (kind_ne_none_of_runsMl hruns) hphase
      simp [someEnded, ← hmatched.runsMl, hruns, hterminal]
    · rw [keeps_bind]
      apply alone_clock
      intro now
      unfold Follows
      dsimp only
      split
      · exact ⟨rfl, hphase⟩
      · rename_i next hfinished
        obtain ⟨hmay, hnext⟩ := MlRun.finished_eq_ok hfinished
        exact endMl_alone hlinked hmatched hphase hruns hmay (by rw [hnext]) _

/-- Any message about the workflow leads from its phase to a phase. -/
theorem process_alone (hlinked : scene.workflow.taskId = scene.task.id)
    (hmatched : Matched scene.workflow scene.task) (hphase : Phase scene.workflow scene.task)
    (message : Completion) (hmessage : message.workflowId = scene.workflow.id) :
    (o.process message).Keeps alone () scene fun _ _ reached => InPhase scene reached := by
  cases message with
  | compile message => exact onCompileFinished_alone hlinked hmatched hphase message hmessage
  | sa message => exact onSaFinished_alone hlinked hmatched hphase message hmessage
  | ml message => exact onMlFinished_alone hlinked hmatched hphase message hmessage

end ScanFlow.Orchestrator
