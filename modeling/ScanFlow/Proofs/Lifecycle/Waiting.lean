import ScanFlow.Proofs.Lifecycle.Reach

/-!
What a running workflow waits for.

Nothing watches over workflows, so that one that waits for an answer nobody owes would run
for ever. Between two services a running workflow waits for the compiler, before anything
else has happened, or for an engine that has been asked and has not answered.
-/

namespace ScanFlow

structure AwaitsCompiler (workflow : Workflow) (task : Task) : Prop where
  progress : workflow.progress = 0
  stage : workflow.nextStage? = some .compile
  sa : task.sa.status = .pending
  ml : task.ml.status = .pending

/-- The rules are bound, and an engine of the shape is at work. Only the last stage is left
until one engine has ended, and none from then on. -/
structure AwaitsEngine (workflow : Workflow) (task : Task) : Prop where
  snapshot : task.snapshot.isSome
  running : workflow.shape.runsSa = true ∧ task.sa.status = .running ∨
    workflow.shape.runsMl = true ∧ task.ml.status = .running
  unanswered : someEnded workflow.shape task = false → workflow.progress + 1 = workflow.steps
  answered : someEnded workflow.shape task = true → workflow.progress = workflow.steps

variable {workflow : Workflow} {task : Task}

theorem RunStatus.running_of_open {status : RunStatus} (hstarted : status ≠ .pending)
    (hopen : status.isTerminal = false) : status = .running := by
  cases status with
  | running => rfl
  | pending => exact absurd rfl hstarted
  | success | exception => cases hopen

theorem Compiling.awaitsCompiler (hmatched : Matched workflow task)
    (hcompiling : Compiling workflow task) : AwaitsCompiler workflow task where
  progress := hcompiling.progress
  stage := by
    have hshape := hcompiling.shape
    rw [Workflow.nextStage?, Workflow.isFullyProgressed, hmatched.steps, hcompiling.progress]
    revert hshape
    cases workflow.shape <;>
      simp [Shape.runsCompile, Shape.steps, Shape.stages, Shape.stageAt?]
  sa := hcompiling.sa
  ml := hcompiling.ml

theorem Analysing.awaitsEngine (hanalysing : Analysing workflow task) :
    AwaitsEngine workflow task where
  snapshot := hanalysing.dispatched.snapshot
  running := by
    have hawaited := hanalysing.awaited
    simp only [someAwaited, Bool.or_eq_true, Bool.and_eq_true, Bool.not_eq_true'] at hawaited
    rcases hawaited with ⟨hruns, hopen⟩ | ⟨hruns, hopen⟩
    · exact Or.inl ⟨hruns, RunStatus.running_of_open (hanalysing.dispatched.sa hruns) hopen⟩
    · exact Or.inr ⟨hruns, RunStatus.running_of_open (hanalysing.dispatched.ml hruns) hopen⟩
  unanswered := by
    intro hended
    have hprogress := hanalysing.progress
    rwa [if_neg (by simp [hended])] at hprogress
  answered := by
    intro hended
    have hprogress := hanalysing.progress
    rwa [if_pos hended] at hprogress

/-- The compiler and an engine are never awaited together. -/
theorem AwaitsCompiler.not_engine (hcompiler : AwaitsCompiler workflow task) :
    ¬ AwaitsEngine workflow task := by
  intro hengine
  rcases hengine.running with ⟨_, hrunning⟩ | ⟨_, hrunning⟩
  · exact absurd (hcompiler.sa.symm.trans hrunning) nofun
  · exact absurd (hcompiler.ml.symm.trans hrunning) nofun

namespace System

variable {o : Orchestrator} {start system : System}

/-- A running workflow waits for the compiler, or for an engine that is at work, and never for
both. -/
theorem running_workflow_awaits (hinitial : start.Initial) (hreach : Reaches o start system)
    {id : Uuid} {workflow : Workflow}
    (hstored : system.store.workflows.get? id = some workflow)
    (hrunning : workflow.status = .running) :
    ∃ task, system.store.tasks.get? workflow.taskId = some task ∧
      (AwaitsCompiler workflow task ∧ ¬ AwaitsEngine workflow task ∨
        AwaitsEngine workflow task ∧ ¬ AwaitsCompiler workflow task) := by
  obtain ⟨hsound, _⟩ := hinitial.reaches hreach
  obtain ⟨task, htask, hmatched, hphase, _⟩ := hsound.phase id workflow hstored
  refine ⟨task, htask, ?_⟩
  cases hphase with
  | compiling h =>
    have hawaits := h.awaitsCompiler hmatched
    exact Or.inl ⟨hawaits, hawaits.not_engine⟩
  | analysing h =>
    have hawaits := h.awaitsEngine
    exact Or.inr ⟨hawaits, fun hcompiler => hcompiler.not_engine hawaits⟩
  | completed h => exact absurd (hrunning.symm.trans h.complete) nofun
  | aborted h => exact absurd (hrunning.symm.trans h) nofun

/-- Once the compiler has answered, a scan with both engines waits for one of them. -/
theorem compiled_workflow_awaits :
    ∃ workflow task, (compiled .compileSaMl).store.workflows.get? (Uuid.generated 3) =
        some workflow ∧
      (compiled .compileSaMl).store.tasks.get? workflow.taskId = some task ∧
      workflow.status = .running ∧ workflow.progress = 1 ∧
        (AwaitsCompiler workflow task ∧ ¬ AwaitsEngine workflow task ∨
          AwaitsEngine workflow task ∧ ¬ AwaitsCompiler workflow task) := by
  have hstatus : ((compiled .compileSaMl).store.workflows.get? (Uuid.generated 3)).map
      (fun workflow => (workflow.status, workflow.progress)) = some (.running, 1) := by
    decide +kernel
  obtain ⟨workflow, hstored, hopen⟩ := Option.map_eq_some_iff.mp hstatus
  obtain ⟨hrunning, hprogress⟩ := Prod.mk.inj hopen
  obtain ⟨task, htask, hawaits⟩ :=
    running_workflow_awaits initial_empty (reaches_compiled .compileSaMl) hstored hrunning
  exact ⟨workflow, task, hstored, htask, hrunning, hprogress, hawaits⟩

end System

end ScanFlow
