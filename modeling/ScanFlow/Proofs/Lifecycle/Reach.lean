import ScanFlow.Proofs.Lifecycle.Submit
import ScanFlow.Proofs.Store.History

/-!
The systems that whole services reach.

A service runs to its end before the next one begins. Services come in any order and
number, messages may be early, late, repeated or wrong, and publishing and blob storage may
fail at any call. What holds of every system reached in this way is the invariant of
`System.Sound`; a workflow that has been completed has then been completed rightly.
-/

namespace ScanFlow

/-- One whole service, or one edit of the catalog. -/
inductive Service (o : Orchestrator) (system : System) : System → Prop where
  | registerCode (upload : CodeUpload) {outcome : Except ServiceError Code} {final : System}
      (hruns : (Orchestrator.registerCode upload).Runs system outcome final) :
      Service o system final
  | start (submission : Submission) {outcome : Except ServiceError Workflow} {final : System}
      (hruns : (o.start submission).Runs system outcome final) : Service o system final
  | process {queue : Queue} {body : Json} {message : Completion}
      (haccepted : Completion.parse queue body = .ok message)
      {outcome : Except ServiceError Unit} {final : System}
      (hruns : (o.process message).Runs system outcome final) : Service o system final
  | remerge (taskId : Uuid) {outcome : Except ServiceError Summary} {final : System}
      (hruns : (o.remerge taskId).Runs system outcome final) : Service o system final
  | audit (taskId findingId : Uuid) (request : AuditRequest)
      {outcome : Except ServiceError Finding} {final : System}
      (hruns : (Orchestrator.auditFinding taskId findingId request).Runs system outcome final) :
      Service o system final
  | putRule (rule : Rule) : Service o system { system with store := system.store.putRule rule }
  | putTemplate (template : RuleTemplate) :
      Service o system { system with store := system.store.putTemplate template }

inductive Reaches (o : Orchestrator) (start : System) : System → Prop where
  | refl : Reaches o start start
  | step {system next : System} (hreach : Reaches o start system)
      (hservice : Service o system next) : Reaches o start next

/-- A whole run leaves a history of its calls to the store. -/
theorem Program.Runs.ran {α : Type} {program : Program α} {system final : System}
    {outcome : Except ServiceError α} (hruns : program.Runs system outcome final) :
    ∃ history, system.store.Ran history final.store := by
  induction hruns with
  | done outcome system => exact ⟨[], .start⟩
  | call request next env _ ih =>
    obtain ⟨history, hran⟩ := ih
    cases request with
    | store operation => exact ⟨_, (Store.Ran.start.step (.perform env.now operation)).trans hran⟩
    | publish queue payload =>
      simp only [Call.perform, System.publish] at hran
      split at hran
      · exact ⟨history, hran⟩
      · exact ⟨history, hran⟩
    | clock | reserve | blobExists | blobUrl => exact ⟨history, hran⟩

/-- So do services, one after another. -/
theorem Reaches.ran {o : Orchestrator} {start system : System} (hreach : Reaches o start system) :
    ∃ history, start.store.Ran history system.store := by
  induction hreach with
  | refl => exact ⟨[], .start⟩
  | @step between next _ hservice ih =>
    obtain ⟨history, hran⟩ := ih
    have hmore : ∃ more, between.store.Ran more next.store := by
      cases hservice with
      | registerCode upload hruns => exact hruns.ran
      | start submission hruns => exact hruns.ran
      | process _ hruns => exact hruns.ran
      | remerge taskId hruns => exact hruns.ran
      | audit taskId findingId request hruns => exact hruns.ran
      | putRule rule => exact ⟨_, .step .start (.putRule rule)⟩
      | putTemplate template => exact ⟨_, .step .start (.putTemplate template)⟩
    obtain ⟨more, hmore⟩ := hmore
    exact ⟨_, hran.trans hmore⟩

/-- A system without workflows. Its records stand under their own identifiers, as every
operation stores them, and the numbers that are left have not been used for groups. -/
structure System.Initial (system : System) : Prop where
  workflows : system.store.workflows = ∅
  keyed : system.store.Keyed
  numbered : system.Numbered

namespace System

variable {o : Orchestrator} {start system next : System}

theorem Initial.sound (hinitial : start.Initial) : start.Sound := by
  have hnone : ∀ id workflow, start.store.workflows.get? id ≠ some workflow := by
    intro id workflow
    rw [hinitial.workflows, SortedMap.get?_empty]
    nofun
  refine ⟨hinitial.keyed, ?_, ?_⟩
  · intro id workflow hfound
    exact absurd hfound (hnone id workflow)
  · intro id other workflow rival hfound
    exact absurd hfound (hnone id workflow)

theorem numbered_of_mild {α : Type} {program : Program α} {outcome : Except ServiceError α}
    {final : System} (hruns : program.Runs system outcome final)
    (hmild : program.Only Call.Mild) (hnumbered : system.Numbered) : final.Numbered :=
  hruns.preserves System.Numbered
    (fun _ env _ hmild hnumbered => hnumbered.perform (hmild.counted _) env) hmild hnumbered

theorem Sound.service (hsound : system.Sound) (hservice : Service o system next) :
    next.Sound ∧ (system.Numbered → next.Numbered) := by
  cases hservice with
  | registerCode upload hruns =>
    have hmild := Orchestrator.registerCode_mild upload
    exact ⟨hsound.runs_mild hruns hmild, numbered_of_mild hruns hmild⟩
  | start submission hruns =>
    refine ⟨Orchestrator.start_sound hsound hruns, ?_⟩
    exact hruns.preserves System.Numbered (fun _ env _ hcall hnumbered =>
      hnumbered.perform (hcall.counted _) env) (Orchestrator.start_only submission)
  | process _ hruns => exact hsound.process hruns
  | remerge taskId hruns =>
    have hmild : (o.remerge taskId).Only Call.Mild := Orchestrator.remerge_mild taskId
    exact ⟨hsound.runs_mild hruns hmild, numbered_of_mild hruns hmild⟩
  | audit taskId findingId request hruns =>
    have hmild := Orchestrator.auditFinding_mild taskId findingId request
    exact ⟨hsound.runs_mild hruns hmild, numbered_of_mild hruns hmild⟩
  | putRule rule => exact ⟨⟨hsound.keyed.putRule rule, hsound.phase, hsound.apart⟩, id⟩
  | putTemplate template =>
    exact ⟨⟨hsound.keyed.putTemplate template, hsound.phase, hsound.apart⟩, id⟩

/-- Every system that services reach from an initial one is sound. -/
theorem Initial.reaches (hinitial : start.Initial) (hreach : Reaches o start system) :
    system.Sound ∧ system.Numbered := by
  induction hreach with
  | refl => exact ⟨hinitial.sound, hinitial.numbered⟩
  | step _ hservice ih =>
    obtain ⟨hsound, hnumbered⟩ := ih
    obtain ⟨hnext, hcount⟩ := hsound.service hservice
    exact ⟨hnext, hcount hnumbered⟩

/-! ### A small installation -/

/-- A world in which nothing fails and no time passes. -/
def quietWorld : Environment :=
  { now := ⟨0, 0⟩
    blobs := { backend := .local, holds := fun _ => .ok true, url := fun _ key _ => .ok key }
    outage := fun _ => none }

/-- Every program can be run in the quiet world. -/
theorem runs_quietly {α : Type} (program : Program α) (system : System) :
    program.Runs system (program.run quietWorld system).1 (program.run quietWorld system).2 :=
  program.runs_run quietWorld system

def smallSettings : Settings :=
  { blobUrlExpirySecs := 60, mergeThresholdLow := .zero, mergeThresholdHigh := .one }

def smallOrchestrator : Orchestrator :=
  { urlLifetime := 60, thresholds := ⟨.zero, .one⟩, defaultLimits := .standard }

theorem ofSettings_smallSettings :
    Orchestrator.ofSettings smallSettings = .ok smallOrchestrator := by
  have hvalid : (⟨.zero, .one⟩ : Thresholds).isValid = true := by decide +kernel
  simp [Orchestrator.ofSettings, Thresholds.validate, smallSettings, smallOrchestrator, hvalid]

def onlyRule : Rule :=
  { id := ⟨1⟩, name := "Command Injection", cwe := "78", category := "injection"
    level := .high, source := [], sink := [], enabled := true, deleted := false }

def onlyTemplate : RuleTemplate :=
  { id := ⟨2⟩, name := "Standard", ruleIds := [⟨1⟩], enabled := true, isDefault := true }

def registered : System :=
  ((Orchestrator.registerCode ⟨"shop.zip", 1, "d4", "shop.zip"⟩).run quietWorld .empty).2

def installed : System :=
  { registered with
    store := (registered.store.putRule onlyRule).putTemplate onlyTemplate }

def submitted (shape : Shape) : System :=
  ((smallOrchestrator.start ⟨Uuid.generated 1, some shape, "manual", none, none⟩).run quietWorld
    installed).2

theorem initial_empty : System.empty.Initial where
  workflows := rfl
  keyed :=
    { workflows := fun id workflow h => by cases (SortedMap.get?_empty id).symm.trans h
      tasks := fun id task h => by cases (SortedMap.get?_empty id).symm.trans h
      codes := fun id code h => by cases (SortedMap.get?_empty id).symm.trans h }
  numbered := fun _ member => nomatch member

theorem reaches_submitted (shape : Shape) :
    Reaches smallOrchestrator .empty (submitted shape) := by
  have hregistered : Reaches smallOrchestrator .empty registered :=
    .step .refl (.registerCode _ (runs_quietly _ _))
  have hrule := Reaches.step hregistered (.putRule onlyRule)
  have hinstalled : Reaches smallOrchestrator .empty installed :=
    .step hrule (.putTemplate onlyTemplate)
  exact .step hinstalled (.start _ (runs_quietly _ _))

/-- The answer of the compiler to the submitted scan, with the key of its artifact. -/
def compiledAs (key : String) : CompileFinished :=
  { workflowId := Uuid.generated 3, success := true
    artifact := some { name := "shop.jar", size := 1, objectKey := key, md5 := "a7" } }

def compiled (shape : Shape) : System :=
  ((smallOrchestrator.process (.compile (compiledAs "shop.jar"))).run quietWorld
    (submitted shape)).2

theorem accepts_compiledAs :
    Completion.parse .compileFinish (compiledAs "shop.jar").toJson =
      .ok (.compile (compiledAs "shop.jar")) := by
  rfl

theorem reaches_compiled (shape : Shape) : Reaches smallOrchestrator .empty (compiled shape) :=
  .step (reaches_submitted shape) (.process accepts_compiledAs (runs_quietly _ _))

def foundOne : SaFinished :=
  { workflowId := Uuid.generated 3, taskId := Uuid.generated 2, success := true
    result := some (SortedMap.ofList [("command-injection",
      { ruleName := "Command Injection", ruleCwe := "78", ruleCategory := "injection"
        ruleLevel := .high
        findings := [⟨"readLine", "exec", [{ file := "Shop.java", line := 7 }]⟩] })]) }

def gaveUp : SaFinished := { foundOne with success := false, result := none }

/-- The other engine has seen one file, without a weakness. -/
def seenOne : MlFinished :=
  { workflowId := Uuid.generated 3, taskId := Uuid.generated 2, success := true
    result := some (SortedMap.ofList [("Shop.java", ⟨200, ∅⟩)]) }

theorem accepts_foundOne :
    Completion.parse .saFinish foundOne.toJson = .ok (.sa foundOne) := by
  rfl

theorem accepts_seenOne : Completion.parse .mlFinish seenOne.toJson = .ok (.ml seenOne) := by
  rfl

/-- A scan for which the machine-learning engine alone is still awaited. -/
def halfFound : System :=
  ((smallOrchestrator.process (.sa foundOne)).run quietWorld (compiled .compileSaMl)).2

def bothFound : System := ((smallOrchestrator.process (.ml seenOne)).run quietWorld halfFound).2

theorem reaches_bothFound : Reaches smallOrchestrator .empty bothFound :=
  .step (.step (reaches_compiled .compileSaMl) (.process accepts_foundOne (runs_quietly _ _)))
    (.process accepts_seenOne (runs_quietly _ _))

/-- A complete workflow has done all its stages, its task has a compiled artifact, and every
engine that its shape runs has succeeded. -/
theorem complete_workflow_done (hinitial : start.Initial) (hreach : Reaches o start system)
    {id : Uuid} {workflow : Workflow}
    (hstored : system.store.workflows.get? id = some workflow)
    (hcomplete : workflow.status = .complete) :
    workflow.progress = workflow.steps ∧
      ∃ task, system.store.tasks.get? workflow.taskId = some task ∧ task.targetKey.isSome ∧
        (workflow.shape.runsSa = true → task.sa.status = .success) ∧
          (workflow.shape.runsMl = true → task.ml.status = .success) := by
  obtain ⟨hsound, _⟩ := hinitial.reaches hreach
  obtain ⟨task, htask, _, hphase, _⟩ := hsound.phase id workflow hstored
  cases hphase with
  | compiling h => exact absurd (h.running.symm.trans hcomplete) nofun
  | analysing h => exact absurd (h.running.symm.trans hcomplete) nofun
  | completed h =>
    exact ⟨h.progress, task, htask, h.target, h.succeeded.sa, h.succeeded.ml⟩
  | aborted h => exact absurd (h.symm.trans hcomplete) nofun

/-- A scan that both engines have answered is complete, and both have succeeded. -/
theorem answered_workflow_done :
    ∃ workflow task, bothFound.store.workflows.get? (Uuid.generated 3) = some workflow ∧
      bothFound.store.tasks.get? workflow.taskId = some task ∧ workflow.status = .complete ∧
      workflow.shape = .compileSaMl ∧ workflow.progress = workflow.steps ∧ workflow.steps = 2 ∧
      task.targetKey.isSome ∧ task.sa.status = .success ∧ task.ml.status = .success := by
  have hseen : (bothFound.store.workflows.get? (Uuid.generated 3)).map
      (fun workflow => (workflow.status, workflow.shape, workflow.steps)) =
        some (.complete, .compileSaMl, 2) := by
    decide +kernel
  obtain ⟨workflow, hstored, hfields⟩ := Option.map_eq_some_iff.mp hseen
  simp only [Prod.mk.injEq] at hfields
  obtain ⟨hcomplete, hshape, hsteps⟩ := hfields
  obtain ⟨hprogress, task, htask, htarget, hsa, hml⟩ :=
    complete_workflow_done initial_empty reaches_bothFound hstored hcomplete
  rw [hshape] at hsa hml
  exact ⟨workflow, task, hstored, htask, hcomplete, hshape, hprogress, hsteps, htarget, hsa rfl,
    hml rfl⟩

end System

end ScanFlow
