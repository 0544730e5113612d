import ScanFlow.Proofs.Program.Passes
import ScanFlow.Proofs.Race.Compilation
import ScanFlow.Proofs.Race.Lasting

/-!
How the record of a static analysis that has ended is overwritten.

A delivery that has read the workflow while the compiler was awaited can bind its artifact at any
time, unless another artifact has been bound, and marks the progress of the static analysis then.
If some other deliveries can end the analysis first, the mark falls on a record that has ended.
There are four ways to do so, and where none of them is open the record lasts.
-/

namespace ScanFlow

structure Task.Primed (task : Task) (key : String) : Prop where
  target : task.targetKey = some key
  snapshot : task.snapshot = none
  sa : task.sa.status = .pending
  ml : task.ml.status = .pending

namespace System

/-- The static analysis of the task has ended, and an artifact with this key can be bound. -/
def Exposed (taskId : Uuid) (key : String) (system : System) : Prop :=
  ∃ scene, system.Shows scene ∧ scene.task.id = taskId ∧
    scene.task.sa.status.isTerminal = true ∧
      ∀ bound, scene.task.targetKey = some bound → bound = key

def Ongoing (workflowId taskId : Uuid) (key : String) (system : System) : Prop :=
  ∃ scene, system.Shows scene ∧ scene.workflow.id = workflowId ∧ scene.task.id = taskId ∧
    scene.task.targetKey = some key ∧ scene.task.runsSa = true ∧ scene.task.sa.status = .running

open Orchestrator Program

variable {o : Orchestrator} {system : System} {scene : Scene} {workflow : Workflow}
  {kind : Task.Kind} {key : String}

/-! ### Answers of the engines -/

theorem exposed_of_unbound (hshows : system.Shows scene)
    (hended : scene.task.sa.status.isTerminal = true) (htarget : scene.task.targetKey = none)
    (key : String) : system.Exposed scene.task.id key := by
  refine ⟨scene, hshows, rfl, hended, ?_⟩
  rw [htarget]
  nofun

/-- The static analysis fails before there is an artifact. -/
theorem failure_exposes (hsound : system.Sound) (hshows : system.Shows scene)
    (hcompiling : Compiling scene.workflow scene.task) {answer : SaFinished}
    (hfailure : (Completion.sa answer).ReportsFailure scene.workflow) (key : String) :
    (o.process (.sa answer)).Passes (Exposed scene.task.id key) system := by
  obtain ⟨hworkflow, htask, hfailed, hrunsSa⟩ := hfailure
  have htask : answer.taskId = scene.task.id := htask.trans hshows.linked
  have hruns := runs_quietly (o.process (.sa answer)) system
  obtain ⟨hown, hmay⟩ := Bool.and_eq_true_iff.mp
    (awaitsSa_of_compiling (hsound.shown hshows).1 hcompiling hrunsSa hfailed)
  obtain ⟨_, task, hfound, hended⟩ :=
    (onSaFinished_ends (o := o) hshows hworkflow htask hown hmay).runs hruns
  obtain ⟨_, hmoved⟩ := sa_moved hsound hshows hworkflow htask hruns
  obtain ⟨reached, hreached, hexpected, _, hid⟩ := hmoved.reached
  rw [← hid, hreached.task, Option.some.injEq] at hfound
  subst hfound
  -- No answer of an engine binds an artifact.
  have htarget : reached.timeless.task.targetKey = none := by
    rw [hexpected]
    exact Scene.saAnswered_target.trans hcompiling.target
  exact hruns.passes (hid ▸ exposed_of_unbound hreached hended htarget key)

/-- The other engine fails before there is an artifact, and without rules the static analysis is
given up with it. -/
theorem miss_exposes (hsound : system.Sound) (hshows : system.Shows scene)
    (hcompiling : Compiling scene.workflow scene.task)
    (hunruled : system.store.unruled scene.workflow.templateId = true) {answer : MlFinished}
    (hfailure : (Completion.ml answer).ReportsFailure scene.workflow) (key : String) :
    (o.process (.ml answer)).Passes (Exposed scene.task.id key) system := by
  obtain ⟨hworkflow, htask, hfailed, hrunsMl⟩ := hfailure
  obtain ⟨hmatched, _⟩ := hsound.shown hshows
  have hruns := runs_quietly (o.process (.ml answer)) system
  have hmoved := ml_moved hsound hshows hworkflow (htask.trans hshows.linked) hruns
  obtain ⟨reached, hreached, hexpected, _, hid⟩ := hmoved.reached
  have hmay : scene.task.awaitsMl answer.success = true :=
    awaitsMl_of_compiling hmatched hcompiling hrunsMl hfailed
  have hawaits : scene.timeless.task.awaitsMl answer.success = true := hmay
  have hbefore : scene.workflow.isEarly = true :=
    early_of_compiling hmatched hcompiling (by simp [Shape.requiresRules, hrunsMl])
  have hearly : (scene.timeless.mlEnded answer).workflow.isEarly = true := hbefore
  have htemplate : ((scene.timeless.mlEnded answer).settled o).workflow.templateId =
      scene.workflow.templateId :=
    Workflow.templateId_of_given ((Workflow.judged_given _ _).trans (Workflow.counted_given _))
  have hended : reached.timeless.task.sa.status.isTerminal = true := by
    rw [hexpected, Scene.mlAnswered_of_awaited hawaits, Scene.answered, if_pos hearly,
      Scene.givenUp, if_pos (by rw [htemplate]; exact hunruled)]
    exact Task.givenUp_terminal _
  have htarget : reached.timeless.task.targetKey = none := by
    rw [hexpected]
    exact Scene.mlAnswered_target.trans hcompiling.target
  exact hruns.passes (hid ▸ exposed_of_unbound hreached hended htarget key)

/-- The static analysis is answered once it is running. -/
theorem answer_exposes {answer : SaFinished}
    (h : system.Ongoing answer.workflowId answer.taskId key) :
    (o.process (.sa answer)).Passes (Exposed answer.taskId key) system := by
  obtain ⟨scene, hshows, hworkflow, htask, hkey, hown, hrunning⟩ := h
  have hruns := runs_quietly (o.process (.sa answer)) system
  have hmay : scene.task.sa.status.canBecome (.ofSuccess answer.success) = true := by
    rw [hrunning]
    cases answer.success <;> rfl
  obtain ⟨_, task, hfound, hended⟩ :=
    (onSaFinished_ends (o := o) hshows hworkflow.symm htask.symm hown hmay).runs hruns
  -- The artifact stays bound.
  obtain ⟨reached, hreached, hid, hbound⟩ := hruns.preserves
    (fun system => ∃ reached, system.Shows reached ∧ reached.task.id = scene.task.id ∧
      reached.task.targetKey = some key)
    (fun call env system _ ⟨met, hmet, hid, hbound⟩ => by
      obtain ⟨next, hmoves, hnext⟩ := hmet.perform env call
      exact ⟨next, hnext, hmoves.fixed.2.trans hid, targetKey_kept hmoves hbound⟩)
    (only_any _) ⟨scene, hshows, rfl, hkey⟩
  rw [← hid, hreached.task, Option.some.injEq] at hfound
  subst hfound
  refine hruns.passes ⟨reached, hreached, hid.trans htask, hended, ?_⟩
  intro bound hsame
  rw [hbound, Option.some.injEq] at hsame
  exact hsame.symm

/-! ### The answer of the compiler -/

theorem unruled_solo {α : Type} {program rest : Program α} {env : Environment} {n : Nat}
    {next : System} (hsolo : program.solo env n system = (rest, next)) :
    next.store.unruled = system.store.unruled := by
  have hcut := cut_solo env n program system
  rw [hsolo] at hcut
  exact hcut.preserves_store (fun store => store.unruled = system.store.unruled)
    (fun operation now store hsame => (operation.unruled now store).trans hsame) rfl

/-- Only the answer of the compiler brings an artifact, and it reports a success then. -/
theorem artifact_of_key {message : Completion} (hkey : message.key? = some key) :
    ∃ answer artifact, message = .compile answer ∧ answer.success = true ∧
      answer.artifact = some artifact ∧ artifact.objectKey = key := by
  cases message with
  | sa | ml => cases hkey
  | compile answer =>
    unfold Completion.key? at hkey
    dsimp only at hkey
    split at hkey
    · rename_i hsuccess
      obtain ⟨artifact, hartifact, hsame⟩ := Option.map_eq_some_iff.mp hkey
      exact ⟨answer, artifact, rfl, hsuccess, hartifact, hsame⟩
    · cases hkey

/-- The analysis is next once the compile stage has been counted. -/
theorem stepped_of_compiling {task : Task} (hmatched : Matched workflow task)
    (hcompiling : Compiling workflow task) (hanalysis : workflow.shape.runsAnalysis = true)
    (moment : Timestamp) :
    workflow.advanced? moment = some (workflow.stepped moment) ∧
      (workflow.stepped moment).isFullyProgressed = false ∧
        (workflow.stepped moment).nextStage? = some .analysis := by
  have htwo : workflow.steps = 2 := hmatched.steps.trans (two_steps hcompiling.shape hanalysis)
  have hopen : (workflow.stepped moment).isFullyProgressed = false := by
    simp [Workflow.isFullyProgressed, Workflow.stepped, hcompiling.progress, htwo]
  refine ⟨?_, hopen, ?_⟩
  · apply Workflow.advanced?_eq_stepped hcompiling.running
    rw [hcompiling.progress, htwo]
    omega
  · rw [Workflow.nextStage?, if_neg (by simp [hopen])]
    have hcompile := hcompiling.shape
    simp only [Workflow.stepped, hcompiling.progress, Shape.stageAt?]
    revert hcompile hanalysis
    cases workflow.shape <;> decide

/-- A delivery with an artifact comes as far as the dispatch of the analysis. -/
theorem compile_passes {goal : System → Prop} (hshows : system.Shows scene)
    (hmatched : Matched scene.workflow scene.task)
    (hcompiling : Compiling scene.workflow scene.task)
    (hanalysis : scene.workflow.shape.runsAnalysis = true) {message : Completion}
    (hid : message.workflowId = scene.workflow.id) (hkey : message.key? = some key)
    (hdispatch : ∀ workflow met (next : System), next.Shows met →
      workflow.given = scene.workflow.given → met.workflow.id = scene.workflow.id →
      met.task.id = scene.task.id → met.task.kind = scene.task.kind → met.task.Primed key →
      next.store.unruled = system.store.unruled →
        (o.dispatchAnalysis workflow).Passes goal next) :
    (o.process message).Passes goal system := by
  obtain ⟨answer, artifact, rfl, hsuccess, hartifact, rfl⟩ := artifact_of_key hkey
  have hstage := nextStage?_of_compiling hmatched.steps hcompiling
  refine passes_solo (onCompileFinished_solo quietWorld hshows hcompiling.running hstage hid
    hsuccess hartifact) ?_
  obtain ⟨bound, between, hbinds, hbetween, hbound⟩ :=
    acceptArtifact_solo o scene.workflow artifact quietWorld hshows rfl
      (by rw [hcompiling.target]; nofun)
  obtain ⟨_, rfl⟩ := Task.withArtifact?_eq_some hbound
  refine passes_solo hbinds ?_
  obtain ⟨reached, rest, next, hadvances, hreached, htask, hworkflow, hrest⟩ :=
    afterBinding_solo o scene.workflow scene.task artifact quietWorld hbetween rfl rfl
  refine passes_solo hadvances ?_
  obtain ⟨hadvanced, hopen, hnext⟩ :=
    stepped_of_compiling hmatched hcompiling hanalysis quietWorld.now
  have hrunning : (scene.workflow.stepped quietWorld.now).isRunning = true :=
    Workflow.isRunning_iff.mpr hcompiling.running
  rw [hrest _ hadvanced hopen, chain, if_neg (by simp [hrunning]), hnext]
  refine (Passes.attempt (hdispatch _ reached next hreached rfl ?_ ?_ ?_ ?_ ?_)).bind _
  · rw [hworkflow, hadvanced]
    rfl
  · rw [htask]
  · rw [htask]
  · rw [htask]
    exact ⟨rfl, hcompiling.snapshot, hcompiling.sa, hcompiling.ml⟩
  · exact (unruled_solo hadvances).trans (unruled_solo hbinds)

/-! ### The dispatch of the analysis -/

theorem dispatch_passes {goal : System → Prop} (hshows : system.Shows scene)
    (htask : workflow.taskId = scene.task.id) (hsnapshot : scene.task.snapshot = none)
    (hshape : workflow.shape.taskKind? = some kind) (htemplate : workflow.templateId.isSome)
    (hunruled : system.store.unruled workflow.templateId = true →
      (abortWithoutRules workflow scene.task kind).Passes goal system)
    (hruled : system.store.unruled workflow.templateId = false → ∀ snapshot,
      (o.requestAnalysis workflow scene.task kind snapshot).Passes goal system) :
    (o.dispatchAnalysis workflow).Passes goal system := by
  unfold dispatchAnalysis
  apply Through.passes_bind quietWorld
  apply through_task hshows trivial htask
  refine ⟨_, rfl, ?_⟩
  rw [if_neg (by simp [hsnapshot]), hshape]
  dsimp only
  apply Through.passes_bind quietWorld
  apply captureRules_tells
  · intro h
    exact ⟨_, rfl, hunruled h⟩
  · intro e hnone
    rw [hnone] at htemplate
    cases htemplate
  · intro h snapshot
    exact ⟨_, rfl, hruled h snapshot⟩

/-- Without rules, the static analysis is given up beside its artifact. -/
theorem abort_exposes (hshows : system.Shows scene) (hid : workflow.id = scene.workflow.id)
    (hkind : scene.task.kind = some kind) (hprimed : scene.task.Primed key) :
    (abortWithoutRules workflow scene.task kind).Passes (Exposed scene.task.id key) system := by
  have hruns := runs_quietly (abortWithoutRules workflow scene.task kind) system
  obtain ⟨_, reached, hreached, _, hexpected⟩ :=
    (abortWithoutRules_leads hshows hid hkind).runs hruns
  have htask : reached.task.timeless = scene.task.timeless.givenUp := congrArg Scene.task hexpected
  refine hruns.passes ⟨reached, hreached, ?_, ?_, ?_⟩
  · exact (congrArg Task.id htask).trans (Task.givenUp_id _)
  · change reached.task.timeless.sa.status.isTerminal = true
    rw [htask]
    exact Task.givenUp_terminal _
  · intro bound hbound
    have htarget : reached.task.targetKey = scene.task.targetKey :=
      (congrArg Task.targetKey htask).trans (Task.givenUp_target _)
    rw [htarget, hprimed.target, Option.some.injEq] at hbound
    exact hbound.symm

/-- With rules, the static analysis is started beside its artifact. -/
theorem request_starts (hshows : system.Shows scene) (hsa : kind.includesSa = true)
    (hprimed : scene.task.Primed key) (workflow : Workflow) (snapshot : TemplateSnapshot) :
    (o.requestAnalysis workflow scene.task kind snapshot).Passes
      (Ongoing scene.workflow.id scene.task.id key) system := by
  have hurl : (Program.blobUrl key o.urlLifetime).Runs system (.ok key) system :=
    runs_quietly (Program.blobUrl key o.urlLifetime) system
  obtain ⟨runs, hstarted⟩ : ∃ runs, startedRuns scene.task kind quietWorld.now = .ok runs := by
    unfold startedRuns SaRun.started MlRun.started RunStatus.become
    rw [hprimed.sa, hprimed.ml]
    cases kind <;> exact ⟨_, rfl⟩
  have hrunning := (startedRuns_binds hstarted).sa_running hsa
  have hnext := hshows.store quietWorld.now
    (.bindAnalysis scene.task.id { kind, snapshot, sa := runs.1, ml := runs.2 })
  rw [Scene.after_taskChange rfl, Task.withAnalysis?, if_neg (by simp [hprimed.snapshot])] at hnext
  rw [requestAnalysis_eq hprimed.target]
  refine passes_bind hurl ?_
  refine passes_ask quietWorld ?_
  change Passes _ (Program.ofExcept (startedRuns scene.task kind quietWorld.now) >>= _) system
  rw [hstarted]
  exact passes_ask quietWorld (passes_here _ ⟨_, hnext, rfl, rfl, hprimed.target, hsa, hrunning⟩)

theorem analysis_of_runsSa {shape : Shape} (hruns : shape.runsSa = true) :
    (∃ kind, shape.taskKind? = some kind ∧ kind.includesSa = true) ∧
      (shape.runsCompile = true → shape.runsAnalysis = true) := by
  revert hruns
  cases shape <;> simp [Shape.runsSa, Shape.taskKind?, Shape.runsMl, Task.Kind.includesSa,
    Shape.runsCompile, Shape.runsAnalysis, Shape.stages]

/-- A delivery with an artifact gives the static analysis up for want of rules, or starts it. -/
theorem compile_prepares (hshows : system.Shows scene)
    (hmatched : Matched scene.workflow scene.task)
    (hcompiling : Compiling scene.workflow scene.task)
    (hruns : scene.workflow.shape.runsSa = true) (htemplate : scene.workflow.templateId.isSome)
    {message : Completion} (hid : message.workflowId = scene.workflow.id)
    (hkey : message.key? = some key) :
    (o.process message).Passes
      (if system.store.unruled scene.workflow.templateId = true then Exposed scene.task.id key
        else Ongoing scene.workflow.id scene.task.id key) system := by
  obtain ⟨⟨kind, hshape, hsa⟩, hanalysis⟩ := analysis_of_runsSa hruns
  refine compile_passes hshows hmatched hcompiling (hanalysis hcompiling.shape) hid hkey ?_
  intro workflow met next hmet hgiven hmetId htask hkind hprimed hsame
  have hsameShape := Workflow.shape_of_given hgiven
  have htaskId := Workflow.taskId_of_given hgiven
  have hsameTemplate := Workflow.templateId_of_given hgiven
  rw [← hsame, ← hsameTemplate, ← htask, ← hmetId]
  refine dispatch_passes hmet (htaskId.trans (hshows.linked.trans htask.symm)) hprimed.snapshot
    (hsameShape ▸ hshape) (hsameTemplate ▸ htemplate) ?_ ?_
  · intro hunruled
    rw [if_pos hunruled]
    exact abort_exposes hmet ((Workflow.id_of_given hgiven).trans hmetId.symm)
      (hkind.trans (hmatched.kind.trans hshape)) hprimed
  · intro hruled snapshot
    rw [if_neg (by simp [hruled])]
    exact request_starts hmet hsa hprimed workflow snapshot

/-! ### Overwriting -/

/-- A delivery that binds its artifact late marks the progress of a run that has ended. -/
theorem acceptArtifact_overwrites {task : Task} {artifact : CompileArtifact}
    (hexposed : system.Exposed task.id artifact.objectKey)
    (hruns : workflow.shape.runsSa = true) :
    ∃ run, system.saRun? task.id = some run ∧ run.status.isTerminal = true ∧
      ∃ rest next, (o.acceptArtifact workflow task artifact).solo quietWorld 1 system =
          (rest, next) ∧
        next.saRun? task.id = some { run with progress := compiledProgress } := by
  obtain ⟨scene, hshows, hid, hterminal, hfree⟩ := hexposed
  obtain ⟨bound, next, hsolo, hnext, hbound⟩ :=
    acceptArtifact_solo o workflow artifact quietWorld hshows hid.symm hfree
  obtain ⟨_, rfl⟩ := Task.withArtifact?_eq_some hbound
  refine ⟨scene.task.sa, hid ▸ hshows.saRun?, hterminal, _, next, hsolo, ?_⟩
  rw [if_pos hruns] at hnext
  rw [← hid]
  exact hnext.saRun?

section Overwriting

variable {messages : List Completion}

/-- One delivery has read the workflow in time. While it waits, the others have their way. -/
theorem not_lasting_of_detour (hsound : system.Sound) (hshows : system.Shows scene)
    (hcompiling : Compiling scene.workflow scene.task)
    (hruns : scene.workflow.shape.runsSa = true) {j : Nat} {message : Completion}
    (hmessage : messages[j]? = some message) (hid : message.workflowId = scene.workflow.id)
    (hkey : message.key? = some key)
    (hdetour : ∀ read : Flight, read.system = system →
      (∀ (i : Nat) other, i ≠ j → messages[i]? = some other →
        read.programs[i]? = some (o.process other)) →
      ∃ later, read.LeadsTo later ∧ later.system.Exposed scene.task.id key ∧
        later.programs[j]? = read.programs[j]?) :
    ¬ (o.delivering system messages).SaLasts scene.task.id := by
  obtain ⟨answer, artifact, rfl, hsuccess, hartifact, rfl⟩ := artifact_of_key hkey
  have hstage := nextStage?_of_compiling (hsound.shown hshows).1.steps hcompiling
  have hlaunched : ∀ (i : Nat) other, messages[i]? = some other →
      (o.delivering system messages).programs[i]? = some (o.process other) := by
    intro i other hother
    simp [delivering, Flight.launch, hother]
  obtain ⟨read, hread, hsystem, hprograms⟩ := Flight.leadsTo_solo (hlaunched j _ hmessage)
    (onCompileFinished_solo quietWorld hshows hcompiling.running hstage hid hsuccess hartifact)
  have hwaiting : read.programs[j]? =
      some (o.acceptArtifact scene.workflow scene.task artifact) := by
    rw [hprograms]
    exact List.getElem?_set_self (List.getElem?_eq_some_iff.mp (hlaunched j _ hmessage)).1
  obtain ⟨later, hlater, hexposed, hsame⟩ := hdetour read hsystem (by
    intro i other hne hother
    rw [hprograms, List.getElem?_set_ne (Ne.symm hne)]
    exact hlaunched i other hother)
  -- Then it binds its artifact after all.
  obtain ⟨run, hrun, hterminal, rest, next, hsolo, hmarked⟩ :=
    acceptArtifact_overwrites (o := o) hexposed hruns
  obtain ⟨last, ⟨mark, hmark⟩, hlast, _⟩ := Flight.leadsTo_solo (hsame.trans hwaiting) hsolo
  obtain ⟨detour, hschedule⟩ := hread.trans hlater
  intro hlasts
  obtain ⟨hfull, hkept⟩ := hlasts detour mark run (hschedule ▸ hrun) hterminal
  rw [Flight.fly_append, hschedule, hmark, hlast, hmarked, Option.some.injEq] at hkept
  have hprogress : compiledProgress = run.progress := congrArg SaRun.progress hkept
  rw [hfull] at hprogress
  cases hprogress

/-- One other delivery ends the static analysis meanwhile. -/
theorem not_lasting_of_rival (hsound : system.Sound) (hshows : system.Shows scene)
    (hcompiling : Compiling scene.workflow scene.task)
    (hruns : scene.workflow.shape.runsSa = true) {i j : Nat} {message rival : Completion}
    (hne : i ≠ j) (hmessage : messages[j]? = some message)
    (hid : message.workflowId = scene.workflow.id) (hkey : message.key? = some key)
    (hrival : messages[i]? = some rival)
    (hpasses : (o.process rival).Passes (Exposed scene.task.id key) system) :
    ¬ (o.delivering system messages).SaLasts scene.task.id := by
  refine not_lasting_of_detour hsound hshows hcompiling hruns hmessage hid hkey ?_
  rintro read rfl hothers
  obtain ⟨later, hlater, hexposed, hsame⟩ :=
    Flight.leadsTo_passes (hothers i rival hne hrival) hpasses
  exact ⟨later, hlater, hexposed, hsame j (Ne.symm hne)⟩

/-- Two messages are different deliveries if only one of them brings an artifact. -/
theorem apart_of_key {i j : Nat} {message answer : Completion}
    (hmessage : messages[j]? = some message) (hkey : message.key? = some key)
    (hanswer : messages[i]? = some answer) (hnone : answer.key? = none) : i ≠ j := by
  rintro rfl
  rw [hanswer, Option.some.injEq] at hmessage
  rw [← hmessage, hnone] at hkey
  cases hkey

/-- Messages that can overwrite what has ended do so in some order of calls. -/
theorem not_lasting_of_overwritable (hsound : system.Sound) (hshows : system.Shows scene)
    (hcompiling : Compiling scene.workflow scene.task)
    (hruns : scene.workflow.shape.runsSa = true) (htemplate : scene.workflow.templateId.isSome)
    (hworkflow : ∀ message ∈ messages, message.workflowId = scene.workflow.id)
    (hoverwritable : Overwritable (system.store.unruled scene.workflow.templateId) scene.workflow
      messages) :
    ¬ (o.delivering system messages).SaLasts scene.task.id := by
  obtain ⟨hmatched, _⟩ := hsound.shown hshows
  have hown : ∀ {i : Nat} {message : Completion}, messages[i]? = some message →
      message.workflowId = scene.workflow.id :=
    fun hmessage => hworkflow _ (List.mem_of_getElem? hmessage)
  -- Of two deliveries of one artifact, one waits while the other one goes on.
  have hpair : ∀ {i j : Nat} {first second : Completion} {key : String}, i ≠ j →
      messages[i]? = some first → messages[j]? = some second → first.key? = some key →
      second.key? = some key → system.store.unruled scene.workflow.templateId = true →
      ¬ (o.delivering system messages).SaLasts scene.task.id := by
    intro i j first second key hne hfirst hsecond hone htwo hunruled
    have hpasses := compile_prepares (o := o) hshows hmatched hcompiling hruns htemplate
      (hown hsecond) htwo
    rw [if_pos hunruled] at hpasses
    exact not_lasting_of_rival hsound hshows hcompiling hruns (Ne.symm hne) hfirst (hown hfirst)
      hone hsecond hpasses
  cases hoverwritable with
  | failed hartifact hkey hanswer hfailure =>
    obtain ⟨j, hmessage⟩ := List.mem_iff_getElem?.mp hartifact
    obtain ⟨i, hrival⟩ := List.mem_iff_getElem?.mp hanswer
    exact not_lasting_of_rival hsound hshows hcompiling hruns
      (apart_of_key hmessage hkey hrival rfl) hmessage (hown hmessage) hkey hrival
      (failure_exposes hsound hshows hcompiling hfailure _)
  | missed hunruled hartifact hkey hanswer hfailure =>
    obtain ⟨j, hmessage⟩ := List.mem_iff_getElem?.mp hartifact
    obtain ⟨i, hrival⟩ := List.mem_iff_getElem?.mp hanswer
    exact not_lasting_of_rival hsound hshows hcompiling hruns
      (apart_of_key hmessage hkey hrival rfl) hmessage (hown hmessage) hkey hrival
      (miss_exposes hsound hshows hcompiling hunruled hfailure _)
  | unruled hunruled hpaired =>
    obtain ⟨i, j, first, second, key, hne, hfirst, hsecond, hone, htwo⟩ := hpaired
    exact hpair hne hfirst hsecond hone htwo hunruled
  | answered hpaired hanswer htask =>
    obtain ⟨i, j, first, second, key, hne, hfirst, hsecond, hone, htwo⟩ := hpaired
    by_cases hunruled : system.store.unruled scene.workflow.templateId = true
    · exact hpair hne hfirst hsecond hone htwo hunruled
    obtain ⟨k, hrival⟩ := List.mem_iff_getElem?.mp hanswer
    have hfromFirst := apart_of_key hfirst hone hrival rfl
    have hfromSecond := apart_of_key hsecond htwo hrival rfl
    have hpasses := compile_prepares (o := o) hshows hmatched hcompiling hruns htemplate
      (hown hsecond) htwo
    rw [if_neg hunruled] at hpasses
    refine not_lasting_of_detour hsound hshows hcompiling hruns hfirst (hown hfirst) hone ?_
    rintro read rfl hothers
    obtain ⟨between, hbetween, hstarted, hwaiting⟩ :=
      Flight.leadsTo_passes (hothers j second (Ne.symm hne) hsecond) hpasses
    have htaskId := htask.trans hshows.linked
    rw [← htaskId, ← hown hrival] at hstarted
    obtain ⟨later, hlater, hexposed, hsame⟩ := Flight.leadsTo_passes
      ((hwaiting k hfromSecond).trans (hothers k _ hfromFirst hrival)) (answer_exposes hstarted)
    rw [htaskId] at hexposed
    exact ⟨later, hbetween.trans hlater, hexposed,
      (hsame i (Ne.symm hfromFirst)).trans (hwaiting i hne)⟩

end Overwriting

/-- Any messages for one workflow may be delivered at once. In every order of their calls a static
analysis that has ended keeps its record, with full progress, unless the compiler is awaited, an
artifact is brought, and other deliveries can end the analysis before it is bound. -/
theorem sa_lasts_iff {start : System} (hinitial : start.Initial)
    (hreach : Reaches o start system) {id : Uuid} {workflow : Workflow}
    (hstored : system.store.workflows.get? id = some workflow) (messages : List Completion)
    (hworkflow : ∀ message ∈ messages, message.workflowId = id) :
    (o.delivering system messages).SaLasts workflow.taskId ↔
      Spared (system.store.unruled workflow.templateId) workflow messages := by
  obtain ⟨hsound, _⟩ := hinitial.reaches hreach
  have hid := hsound.keyed.workflows id workflow hstored
  obtain ⟨scene, rfl, hshows, hmatched, hphase⟩ := hsound.scene hstored
  obtain ⟨htemplate, hrounded⟩ :=
    hinitial.regular hreach id _ _ hstored (hshows.linked ▸ hshows.task)
  rw [← hid] at hworkflow
  rw [hshows.linked]
  constructor
  · rintro hlasts ⟨hrunning, hstage, hruns, hoverwritable⟩
    have hcompiling := compiling_of_stage hmatched hphase hrunning hstage
    refine not_lasting_of_overwritable hsound hshows hcompiling hruns ?_ hworkflow hoverwritable
      hlasts
    exact htemplate (by simp [Shape.requiresRules, hruns])
  · intro hspared
    obtain ⟨traffic, hsuit⟩ := exists_traffic hshows.linked hmatched hphase hrounded _ hspared
    exact sa_lasts_of_suit hsuit hshows rfl hworkflow

def answering (answer : SaFinished) : Flight :=
  smallOrchestrator.delivering (submitted .compileSa)
    [.compile (compiledAs "shop.jar"), .sa answer]

/-- The turns of one delivery, and then those of the other one. -/
def inTurn : List (Nat × Environment) :=
  (List.replicate 20 0 ++ List.replicate 20 1).map fun index => (index, quietWorld)

/-- What has been found is kept in every order of calls; and when the answer comes after the
artifact, something has been found. -/
theorem success_beside_artifact_lasts :
    (answering foundOne).SaLasts (Uuid.generated 2) ∧
      (((answering foundOne).fly inTurn).system.saRun? (Uuid.generated 2)).map
          (fun run => (run.status, run.weaknessCount)) = some (.success, 1) := by
  have hstate : ((submitted .compileSa).store.workflows.get? (Uuid.generated 3)).map
      Workflow.taskId = some (Uuid.generated 2) := by
    decide +kernel
  obtain ⟨workflow, hstored, hlinked⟩ := Option.map_eq_some_iff.mp hstate
  have honce : ¬ Paired [.compile (compiledAs "shop.jar"), .sa foundOne] := by
    have hfirst : ∀ (i : Nat) message key,
        [Completion.compile (compiledAs "shop.jar"), .sa foundOne][i]? = some message →
          message.key? = some key → i = 0 := by
      intro i message key hmessage hkey
      rcases i with _ | _ | i
      · rfl
      · cases hmessage
        cases hkey
      · cases hmessage
    rintro ⟨i, j, first, second, key, hne, hone, htwo, hkey, hsame⟩
    exact hne ((hfirst i first key hone hkey).trans (hfirst j second key htwo hsame).symm)
  have hspared : Spared ((submitted .compileSa).store.unruled workflow.templateId) workflow
      [.compile (compiledAs "shop.jar"), .sa foundOne] := by
    refine fun h => not_overwritable_of_success honce ?_ h.2.2.2
    intro message member hfailure
    rcases List.mem_cons.mp member with rfl | member
    · exact hfailure
    · cases List.mem_singleton.mp member
      cases hfailure.2.2.1
  refine ⟨?_, by decide +kernel⟩
  rw [← hlinked]
  refine (sa_lasts_iff initial_empty (reaches_submitted .compileSa) hstored _ ?_).mpr hspared
  intro message member
  rcases List.mem_cons.mp member with rfl | member
  · rfl
  · cases List.mem_singleton.mp member
    rfl

/-- The first delivery reads the workflow and its task, and waits until the other one is done. -/
def overtaken : List (Nat × Environment) :=
  ([0, 0] ++ List.replicate 20 1).map fun index => (index, quietWorld)

/-- An artifact that is bound after a failure changes the record of the run that has ended. -/
theorem late_artifact_overwrites :
    Reaches smallOrchestrator .empty (submitted .compileSa) ∧
      (∃ body, Completion.parse .compileFinish body = .ok (.compile (compiledAs "shop.jar"))) ∧
      (∃ body, Completion.parse .saFinish body = .ok (.sa gaveUp)) ∧
      (((answering gaveUp).fly overtaken).system.saRun? (Uuid.generated 2)).map
          (fun run => (run.status, run.progress)) = some (.exception, 100) ∧
      (((answering gaveUp).fly (overtaken ++ [(0, quietWorld)])).system.saRun?
          (Uuid.generated 2)).map (fun run => (run.status, run.progress)) =
        some (.exception, 20) := by
  refine ⟨reaches_submitted .compileSa, ⟨_, accepts_compiledAs⟩, ⟨gaveUp.toJson, rfl⟩, ?_, ?_⟩
  · decide +kernel
  · decide +kernel

end System

end ScanFlow
