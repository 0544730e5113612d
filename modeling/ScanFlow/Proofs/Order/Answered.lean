import ScanFlow.Proofs.Order.Timeless
import ScanFlow.Proofs.Recovery.Repetition

/-!
What an answer of an engine does to a system.

An answer leads from the scene it is about to the scene that `Scene.saAnswered` or
`Scene.mlAnswered` names, up to moments. It neither publishes anything nor touches the catalog,
the codes or the files: by the time an engine can have answered, the analysis has been
dispatched, and before that time there is nothing to be analysed.
-/

namespace ScanFlow

/-! ### What answers of the engines leave alone -/

/-- The queues, the catalog, and what has been uploaded or compiled. -/
def System.frame (system : System) :
    Broker × Table Rule × List RuleTemplate × Table Code × Table StoredFile :=
  (system.broker, system.store.rules, system.store.templates, system.store.codes,
    system.store.files)

def Store.unruled (store : Store) (templateId : Option Uuid) : Bool :=
  templateId.any fun id => (store.activeRules id).isEmpty

theorem Store.unruled_of_frame {system next : System} (hframe : next.frame = system.frame) :
    next.store.unruled = system.store.unruled := by
  simp only [System.frame, Prod.mk.injEq] at hframe
  funext templateId
  unfold unruled activeRules template?
  rw [hframe.2.1, hframe.2.2.1]

def Store.Operation.Calm {α : Type} (operation : Operation α) : Prop :=
  match operation with
  | .createCode _ _ | .registerCompiled _ _ => False
  | _ => True

theorem Store.Operation.Calm.frame {α : Type} {operation : Operation α} (hcalm : operation.Calm)
    (now : Timestamp) (system : System) :
    { system with store := (operation.perform now system.store).2 : System }.frame =
      system.frame := by
  cases hworkflow : operation.workflowChange? now with
  | some named =>
    obtain ⟨workflows, hrest⟩ := changeWorkflow_rest system.store named.1 named.2
    rw [perform_workflowChange hworkflow, hrest]
    rfl
  | none =>
    cases htask : operation.taskChange? now with
    | some named =>
      obtain ⟨tasks, hrest⟩ := changeTask_rest system.store named.1 named.2
      rw [perform_taskChange htask, hrest]
      rfl
    | none =>
      cases operation with
      | advance | finish => cases hworkflow
      | setArtifact | storeSummary | setAuditCount | bindAnalysis | moveSa | moveMl
      | claimMerge => cases htask
      | createCode | registerCompiled => exact hcalm.elim
      | createWorkflow workflow task =>
        rcases createWorkflow_cases system.store workflow task with hsame | ⟨_, _, hadded⟩
        · simp only [perform, hsame]
        · simp only [perform, hadded]
          rfl
      | insertGroups taskId reports =>
        obtain ⟨groups, findings, hrest⟩ := insertGroups_rest system.store taskId reports
        simp only [perform, hrest]
        rfl
      | setAudit id audit =>
        obtain ⟨findings, hrest⟩ := setAudit_rest system.store id audit
        simp only [perform, hrest]
        rfl
      | _ => rfl

namespace Program

variable {α : Type} {system : System} {scene : Scene}
  {post : Except ServiceError α → System → Prop}

theorem through_ofExcept {point : System → Prop} (outcome : Except ServiceError α) :
    (ofExcept outcome).Through point system post ↔ post outcome system := Iff.rfl

theorem through_calm {operation : Store.Operation α} (hcalm : operation.Calm)
    (hshows : system.Shows scene)
    (h : ∀ now answer (next : System), operation.Answers now scene answer →
      next.Shows (scene.after now operation) → next.frame = system.frame →
        post (.ok answer) next) :
    (store operation).Through (fun _ => True) system post := by
  intro env
  exact ⟨trivial, h env.now _ _ (hshows.answers env.now operation)
    (hshows.store env.now operation) (hcalm.frame env.now system)⟩

theorem through_reserve_calm {count : Nat} {post : Except ServiceError Nat → System → Prop}
    (hshows : system.Shows scene)
    (h : ∀ next : System, next.Shows { scene with nextNumber := scene.nextNumber + count } →
      next.frame = system.frame → post (.ok scene.nextNumber) next) :
    (reserve count).Through (fun _ => True) system post := by
  intro env
  have hnext : ((Call.reserve count).perform env system).1 = scene.nextNumber :=
    hshows.nextNumber
  rw [hnext]
  refine ⟨trivial, h _ { hshows with nextNumber := ?_ } rfl⟩
  exact congrArg (· + count) hshows.nextNumber

end Program

namespace Orchestrator

open Program

variable {o : Orchestrator} {system : System} {scene : Scene}

/-! ### Settling -/

/-- The system shows a scene that is the expected one, up to moments; the rest is as it was. -/
def Leads (system : System) (expected : Scene) (final : System) : Prop :=
  ∃ reached, final.Shows reached ∧ final.frame = system.frame ∧ reached.timeless = expected

theorem advance_leads {post : Except ServiceError Workflow → System → Prop}
    (hshows : system.Shows scene)
    (h : ∀ moment (next : System),
      next.Shows { scene with workflow := (scene.workflow.advanced? moment).getD scene.workflow } →
        next.frame = system.frame →
          post (.ok ((scene.workflow.advanced? moment).getD scene.workflow)) next) :
    (advance scene.workflow).Through (fun _ => True) system post := by
  unfold advance
  split
  · rename_i hguard
    have hstay : scene.workflow.advanced? .origin = none := by
      unfold Workflow.advanced?
      rw [Bool.or_eq_true, Bool.not_eq_true'] at hguard
      rcases hguard with hended | hfull
      · simp [hended]
      · simp [hfull]
    have hsame := h .origin system
    rw [hstay] at hsame
    exact hsame hshows rfl
  · rename_i hguard
    have hmay : scene.workflow.isRunning = true ∧ scene.workflow.isFullyProgressed = false := by
      simpa using hguard
    rw [through_bind]
    apply through_clock trivial
    intro moment
    change Through _ (_ >>= _) _ _
    rw [through_bind]
    refine through_calm trivial hshows ?_
    intro now answer next hanswer hnext hframe
    have hadvanced : scene.workflow.advanced? moment = some (scene.workflow.stepped moment) := by
      rw [Workflow.advanced?, hmay.1, hmay.2]
      rfl
    rw [Scene.after_workflowChange rfl] at hnext
    have hpost := h moment next hnext hframe
    rw [hanswer rfl, hadvanced]
    rw [hadvanced] at hpost
    exact hpost

theorem finish_leads {status : Workflow.Status} {id : Uuid}
    {post : Except ServiceError Unit → System → Prop} (hshows : system.Shows scene)
    (hid : id = scene.workflow.id)
    (h : ∀ now (next : System),
      next.Shows
        { scene with workflow := (scene.workflow.finished? status now).getD scene.workflow } →
        next.frame = system.frame → post (.ok ()) next) :
    (Program.finish id status).Through (fun _ => True) system post := by
  rw [Program.finish, through_bind]
  refine through_calm trivial hshows ?_
  intro now answer next _ hnext hframe
  subst hid
  rw [Scene.after_workflowChange rfl] at hnext
  exact h now next hnext hframe

theorem mergeOnce_leads (hshows : system.Shows scene) (hkind : scene.task.kind = some .saMl) :
    (o.mergeOnce scene.task).Through (fun _ => True) system fun outcome final =>
      (∃ merged, outcome = .ok merged) ∧ ∃ task, final.Shows { scene with task } ∧
        final.frame = system.frame ∧
          task.timeless = o.merged scene.task.timeless scene.results := by
  have hsame : scene.task.timeless.kind = some .saMl := hkind
  unfold mergeOnce
  split
  · rename_i hguard
    refine ⟨⟨_, rfl⟩, scene.task, hshows, rfl, ?_⟩
    rw [merged, hsame]
    split
    · have hclosed : (scene.task.timeless.mergeClaimed || !scene.task.timeless.bothSucceeded) =
          true := hguard
      rw [Task.withClaim?, if_pos hclosed]
      rfl
    · rfl
  · rename_i hguard
    rw [through_bind]
    apply loadReports_through hshows trivial
    unfold Rest
    dsimp only
    cases hrecords : o.mergeRecords scene.task scene.results with
    | error e =>
      refine ⟨⟨_, rfl⟩, scene.task, hshows, rfl, ?_⟩
      rw [← timeless_merged, merged, hkind, hrecords]
    | ok records =>
      change Through _ (_ >>= _) _ _
      rw [through_bind]
      apply through_clock trivial
      intro moment
      refine through_calm trivial hshows ?_
      intro now answer next _ hnext hframe
      rw [Scene.after_taskChange rfl] at hnext
      refine ⟨⟨_, rfl⟩, _, hnext, hframe, ?_⟩
      rw [← timeless_merged, merged, hkind, hrecords]
      simp [Task.withClaim?, hguard, Task.timeless, Task.withSummary,
        Summary.timeless_ofResults]

/-- Concluding gives the verdict and merges what there is to merge. -/
theorem conclude_leads {workflow : Workflow} (hshows : system.Shows scene)
    (hid : workflow.id = scene.workflow.id) :
    (o.conclude workflow scene.task).Through (fun _ => True) system fun outcome final =>
      outcome = .ok () ∧ Leads system
        { scene.timeless with
          workflow := scene.timeless.workflow.judged (verdict? scene.task)
          task := o.merged scene.task.timeless scene.results } final := by
  have hfinish : ∀ (status : Workflow.Status) (task : Task) (met : System),
      verdict? scene.task = some status → met.Shows { scene with task } →
      met.frame = system.frame → task.timeless = o.merged scene.task.timeless scene.results →
      (Program.finish workflow.id status).Through (fun _ => True) met fun outcome final =>
        outcome = .ok () ∧ Leads system
          { scene.timeless with
            workflow := scene.timeless.workflow.judged (verdict? scene.task)
            task := o.merged scene.task.timeless scene.results } final := by
    intro status task met hverdict hmet hframe htask
    apply finish_leads hmet hid
    intro now next hnext hsame
    refine ⟨rfl, _, hnext, hsame.trans hframe, ?_⟩
    rw [hverdict, ← htask]
    simp only [Scene.timeless, Workflow.timeless_finished, Workflow.judged]
  have hsame : scene.task.bothSucceeded = false →
      scene.task.timeless = o.merged scene.task.timeless scene.results := by
    intro hnot
    have hnot : scene.task.timeless.bothSucceeded = false := hnot
    exact (merged_of_not_both hnot).symm
  have hother : scene.task.kind ≠ some .saMl →
      scene.task.timeless = o.merged scene.task.timeless scene.results := by
    intro hkind
    have hkind : scene.task.timeless.kind ≠ some .saMl := hkind
    exact (merged_of_kind hkind).symm
  unfold conclude
  split
  · rename_i hkind
    exact hfinish _ _ _ (by rw [verdict?, hkind]) hshows rfl (hother (by simp [hkind]))
  · rename_i hkind
    exact hfinish _ _ _ (by rw [verdict?, hkind]) hshows rfl (hother (by simp [hkind]))
  · rename_i hkind
    split
    · rename_i hboth
      rw [through_bind]
      apply (mergeOnce_leads hshows hkind).mono fun _ => id
      rintro _ met ⟨⟨merged, rfl⟩, task, hmet, hframe, htask⟩
      exact hfinish _ task met (by simp [verdict?, hkind, hboth]) hmet hframe htask
    · rename_i hboth
      have hnot : scene.task.bothSucceeded = false := by simpa using hboth
      split
      · rename_i hterminal
        exact hfinish _ _ _ (by simp [verdict?, hkind, hboth, hterminal]) hshows rfl
          (hsame hnot)
      · rename_i hterminal
        refine ⟨rfl, scene, hshows, rfl, ?_⟩
        have hverdict : verdict? scene.task = none := by
          simp [verdict?, hkind, hboth, hterminal]
        rw [hverdict, ← hsame hnot]
        rfl
  · rename_i hkind
    refine ⟨rfl, scene, hshows, rfl, ?_⟩
    have hverdict : verdict? scene.task = none := by simp [verdict?, hkind]
    rw [hverdict, ← hother (by simp [hkind])]
    rfl

/-! ### Giving up for want of a compiled artifact -/

theorem captureRules_tells {workflow : Workflow}
    {post : Except ServiceError (Option TemplateSnapshot) → System → Prop}
    (hunruled : system.store.unruled workflow.templateId = true → post (.ok none) system)
    (herror : ∀ e, workflow.templateId = none → post (.error e) system)
    (hruled : system.store.unruled workflow.templateId = false →
      ∀ snapshot, post (.ok (some snapshot)) system) :
    (captureRules workflow).Through (fun _ => True) system post := by
  unfold captureRules
  split
  · rename_i hnone
    exact herror _ hnone
  rename_i templateId hsome
  have htells : system.store.unruled workflow.templateId =
      (system.store.activeRules templateId).isEmpty := by
    rw [hsome]
    rfl
  rw [htells] at hunruled hruled
  rw [through_bind]
  refine through_read (fun _ _ => rfl) trivial ?_
  intro _
  rw [Store.Operation.perform]
  cases htemplate : system.store.template? templateId with
  | none => exact hunruled (by rw [Store.activeRules, htemplate]; rfl)
  | some template =>
    have hid : template.id = templateId := by simpa using List.find?_some htemplate
    unfold Rest
    dsimp only
    rw [through_bind]
    refine through_read (fun _ _ => rfl) trivial ?_
    intro _
    rw [Store.Operation.perform, hid]
    unfold Rest
    dsimp only
    split
    · rename_i hempty
      exact hunruled hempty
    · rename_i hempty
      rw [through_bind]
      exact through_clock trivial fun _ => hruled (by simpa using hempty) _

theorem canBecome_exception {status : RunStatus} (hopen : status.isTerminal = false) :
    status.canBecome (.ofSuccess false) = true := by
  cases status with
  | pending | running => rfl
  | success | exception => cases hopen

/-- Where giving up ends: the workflow is aborted, and both runs have been given up. -/
theorem giveUp_leads {workflow : Workflow} {met : System} {task : Task}
    (hmet : met.Shows { scene with task }) (hid : workflow.id = scene.workflow.id)
    (hframe : met.frame = system.frame) (htask : task.timeless = scene.task.timeless.givenUp) :
    (giveUp workflow).Through (fun _ => True) met
      fun outcome final => outcome = .ok .aborted ∧ Leads system
        { scene.timeless with
          workflow := scene.timeless.workflow.ended .aborted
          task := scene.task.timeless.givenUp } final := by
  rw [giveUp, through_bind]
  refine through_calm trivial hmet ?_
  intro now answer next _ hnext hsame
  rw [Scene.after_workflowChange (by rw [hid]; rfl)] at hnext
  refine ⟨rfl, _, hnext, hsame.trans hframe, ?_⟩
  simp only [Scene.timeless, Workflow.timeless_finished, htask]

/-- Once the run of the static analysis has been given up, the other one is, and the workflow. -/
theorem abortRest_leads {workflow : Workflow} {kind : Task.Kind} {met : System} {task : Task}
    (now : Timestamp) (hmet : met.Shows { scene with task })
    (hid : workflow.id = scene.workflow.id) (hkind : scene.task.kind = some kind)
    (hframe : met.frame = system.frame) (htaskId : task.id = scene.task.id)
    (hml : task.ml = scene.task.ml) (htask : task.timeless = scene.task.timeless.saGivenUp) :
    (abortRest workflow scene.task kind now).Through (fun _ => True) met
      fun outcome final => outcome = .ok .aborted ∧ Leads system
        { scene.timeless with
          workflow := scene.timeless.workflow.ended .aborted
          task := scene.task.timeless.givenUp } final := by
  have hruns : scene.task.runsMl = kind.includesMl := by
    rw [Task.runsMl, hkind]
    rfl
  -- Neither the kind nor the other run has been touched so far.
  have hguard : (task.timeless.runsMl && !task.timeless.ml.status.isTerminal) =
      (kind.includesMl && !scene.task.ml.status.isTerminal) := by
    rw [htask, ← hruns]
    unfold Task.saGivenUp
    split
    · rfl
    · rfl
  unfold abortRest
  dsimp only
  split
  · rename_i hopen
    have hmay : scene.task.ml.status.isTerminal = false := by
      simpa using (Bool.and_eq_true_iff.mp hopen).2
    obtain ⟨run, hfinished, _⟩ := MlRun.finished_accepted none now (canBecome_exception hmay)
    rw [hfinished, through_bind, through_ofExcept]
    unfold Rest
    dsimp only
    rw [through_bind]
    refine through_calm trivial hmet ?_
    intro moment answer next _ hnext hsame
    rw [← htaskId, Scene.after_taskChange rfl] at hnext
    have hmoved : task.withMl? scene.task.ml.status run moment =
        some { task with ml := run, updatedAt := moment } := if_pos (by rw [hml])
    dsimp only at hnext
    rw [hmoved, Option.getD_some] at hnext
    refine giveUp_leads hnext hid (hsame.trans hframe) ?_
    rw [← hml] at hfinished
    rw [Task.timeless_finishedMl hfinished, Task.givenUp, ← htask, Task.mlGivenUp, if_pos]
    rw [hguard]
    exact hopen
  · rename_i hclosed
    refine giveUp_leads hmet hid hframe ?_
    rw [Task.givenUp, ← htask, Task.mlGivenUp, if_neg]
    rw [hguard]
    exact hclosed

/-- Without rules, the runs that have not ended are given up with the workflow. -/
theorem abortWithoutRules_leads {workflow : Workflow} {kind : Task.Kind}
    (hshows : system.Shows scene) (hid : workflow.id = scene.workflow.id)
    (hkind : scene.task.kind = some kind) :
    (abortWithoutRules workflow scene.task kind).Through (fun _ => True) system
      fun outcome final => outcome = .ok .aborted ∧ Leads system
        { scene.timeless with
          workflow := scene.timeless.workflow.ended .aborted
          task := scene.task.timeless.givenUp } final := by
  unfold abortWithoutRules
  rw [through_bind]
  apply through_clock trivial
  intro now
  unfold Rest
  dsimp only
  split
  · rename_i hopen
    have hopen : scene.task.sa.status.isTerminal = false := by simpa using hopen
    obtain ⟨run, hfinished, _⟩ := SaRun.finished_accepted [] 0 now (canBecome_exception hopen)
    rw [hfinished, through_bind, through_ofExcept]
    unfold Rest
    dsimp only
    rw [through_bind]
    refine through_calm trivial hshows ?_
    intro moment answer next _ hnext hsame
    rw [Scene.after_taskChange rfl] at hnext
    have hmoved : scene.task.withSa? scene.task.sa.status run moment = some
        { scene.task with
          sa := run, weaknessCount := run.weaknessCount, updatedAt := moment } := if_pos rfl
    rw [hmoved, Option.getD_some] at hnext
    refine abortRest_leads now hnext hid hkind hsame rfl rfl ?_
    rw [Task.timeless_finishedSa hfinished, Task.saGivenUp, if_neg]
    rw [Bool.not_eq_true]
    exact hopen
  · rename_i hclosed
    have hclosed : scene.task.sa.status.isTerminal = true := by simpa using hclosed
    refine abortRest_leads now hshows hid hkind rfl rfl rfl ?_
    exact (if_pos hclosed).symm

/-- Nothing has been compiled, so that going on to the analysis ends the workflow. -/
theorem chain_leads {workflow : Workflow} {kind : Task.Kind} (hshows : system.Shows scene)
    (hgiven : workflow.given = scene.workflow.given) (hrunning : workflow.isRunning = true)
    (hstage : workflow.nextStage? = some .analysis)
    (hshape : scene.workflow.shape.taskKind? = some kind) (hkind : scene.task.kind = some kind)
    (hsnapshot : scene.task.snapshot = none) (htarget : scene.task.targetKey = none) :
    (o.chain workflow).Through (fun _ => True) system fun _ final =>
      Leads system (scene.timeless.givenUp system.store.unruled) final := by
  have hid := Workflow.id_of_given hgiven
  have hsameShape := Workflow.shape_of_given hgiven
  have htaskId := Workflow.taskId_of_given hgiven
  have htemplate := Workflow.templateId_of_given hgiven
  have htells : system.store.unruled workflow.templateId =
      system.store.unruled scene.workflow.templateId := by rw [htemplate]
  -- A failed dispatch leaves the task as it is.
  have hfails : system.store.unruled scene.workflow.templateId = false →
      (Program.finish workflow.id .aborted).Through (fun _ => True) system fun _ final =>
        Leads system (scene.timeless.givenUp system.store.unruled) final := by
    intro hruled
    apply finish_leads hshows hid
    intro now next hnext hframe
    have hruled : ¬ system.store.unruled scene.timeless.workflow.templateId = true := by
      rw [Bool.not_eq_true]
      exact hruled
    refine ⟨_, hnext, hframe, ?_⟩
    rw [Scene.givenUp, if_neg hruled]
    simp only [Scene.timeless, Workflow.timeless_finished]
  unfold chain
  rw [if_neg (by simp [hrunning]), hstage]
  dsimp only
  rw [through_bind, through_attempt]
  change Through _ (o.dispatchAnalysis workflow) _ _
  unfold dispatchAnalysis
  rw [through_bind]
  apply through_task hshows trivial (htaskId.trans hshows.linked)
  unfold Rest
  dsimp only
  rw [if_neg (by simp [hsnapshot]), hsameShape, hshape]
  dsimp only
  rw [through_bind]
  apply captureRules_tells
  · intro hunruled
    apply (abortWithoutRules_leads hshows hid hkind).mono fun _ => id
    rintro _ final ⟨rfl, reached, hreached, hframe, htimeless⟩
    refine ⟨reached, hreached, hframe, ?_⟩
    rw [htimeless, Scene.givenUp, if_pos]
    · rfl
    · exact htells ▸ hunruled
  · intro e hnone
    exact hfails (by rw [← htemplate, hnone]; rfl)
  · intro hruled snapshot
    have hfails := hfails (htells ▸ hruled)
    dsimp only [Rest]
    unfold requestAnalysis
    rw [htarget]
    exact hfails

/-! ### Answers -/

structure Uncompiled (workflow : Workflow) (task : Task) : Prop where
  progress : workflow.progress = 0
  shape : workflow.shape.runsCompile = true
  snapshot : task.snapshot = none
  target : task.targetKey = none

/-- Only a workflow whose compiler has not answered has a stage left after the next one. -/
theorem compiling_of_early {workflow : Workflow} {task : Task} (hphase : Phase workflow task)
    (hearly : workflow.isEarly = true) : Compiling workflow task := by
  simp only [Workflow.isEarly, Bool.and_eq_true, Workflow.isRunning_iff, decide_eq_true_eq]
    at hearly
  cases hphase with
  | compiling h => exact h
  | analysing h =>
    have hprogress := progress_of_analysing h
    omega
  | completed h => cases h.complete.symm.trans hearly.1
  | aborted h => cases h.symm.trans hearly.1

theorem uncompiled_of_early {workflow : Workflow} {task : Task} (hphase : Phase workflow task)
    (hearly : workflow.isEarly = true) : Uncompiled workflow task :=
  have hcompiling := compiling_of_early hphase hearly
  ⟨hcompiling.progress, hcompiling.shape, hcompiling.snapshot, hcompiling.target⟩

theorem Uncompiled.congr {workflow : Workflow} {task next : Task} (h : Uncompiled workflow task)
    (hsnapshot : next.snapshot = task.snapshot) (htarget : next.targetKey = task.targetKey) :
    Uncompiled workflow next :=
  ⟨h.progress, h.shape, hsnapshot.trans h.snapshot, htarget.trans h.target⟩

/-- Counting the compilation of a workflow that also analyses leaves the analysis to do. -/
theorem analysis_follows {workflow : Workflow} {task : Task} (moment : Timestamp)
    (huncompiled : Uncompiled workflow task) (hearly : workflow.isEarly = true)
    (hanalyses : workflow.shape.taskKind? ≠ none) :
    ((workflow.advanced? moment).getD workflow).nextStage? = some .analysis := by
  have hstages := two_stages huncompiled.shape hanalyses
  obtain ⟨_, hopen⟩ := (workflow.isEarly_iff moment).mp hearly
  simp only [Workflow.isEarly, Bool.and_eq_true, Workflow.isRunning_iff, decide_eq_true_eq]
    at hearly
  rw [Workflow.advanced?_eq_stepped hearly.1 (by omega), Option.getD_some] at hopen ⊢
  rw [Workflow.nextStage?, if_neg (by simp [hopen])]
  simp [Workflow.stepped, huncompiled.progress, Shape.stageAt?, hstages]

/-- A workflow that is settled before its analysis goes on to it, and gives up. -/
theorem chain_early_leads {kind : Task.Kind} {moment : Timestamp} {next : System}
    {reached : Scene} (hreached : next.Shows reached) (hframe : next.frame = system.frame)
    (hsettled : reached.timeless = scene.timeless.settled o)
    (hmatched : Matched scene.workflow scene.task) (hkind : scene.task.kind = some kind)
    (hearly : scene.workflow.isEarly = true)
    (huncompiled : Uncompiled scene.workflow scene.task) :
    (o.chain ((scene.workflow.advanced? moment).getD scene.workflow)).Through (fun _ => True) next
      fun _ final => Leads system
        ((scene.timeless.settled o).givenUp system.store.unruled) final := by
  have hshape : scene.workflow.shape.taskKind? = some kind := hmatched.kind.symm.trans hkind
  obtain ⟨hrunning, _⟩ := (scene.workflow.isEarly_iff moment).mp hearly
  have hworkflow : reached.workflow.given = scene.workflow.given := by
    change reached.timeless.workflow.given = scene.timeless.workflow.given
    rw [hsettled]
    exact (Workflow.judged_given _ _).trans (Workflow.counted_given _)
  have hgiven : ((scene.workflow.advanced? moment).getD scene.workflow).given =
      scene.workflow.given := by
    change ((scene.workflow.advanced? moment).getD scene.workflow).timeless.given = _
    rw [Workflow.timeless_advanced]
    exact Workflow.counted_given _
  have htask : reached.timeless.task.course = scene.timeless.task.course := by
    rw [hsettled]
    exact merged_course o _ _
  simp only [Task.course, Prod.mk.injEq] at htask
  obtain ⟨_, hsameKind, hsameTarget, hsameSnapshot, _, _⟩ := htask
  have hnextStage := analysis_follows moment huncompiled hearly
    (by rw [hshape]; exact Option.some_ne_none kind)
  apply (chain_leads (o := o) hreached (hgiven.trans hworkflow.symm) hrunning hnextStage
    (Workflow.shape_of_given hworkflow ▸ hshape) (hsameKind.trans hkind)
    (hsameSnapshot.trans huncompiled.snapshot)
    (hsameTarget.trans huncompiled.target)).mono fun _ => id
  rintro _ final ⟨last, hlast, hfinal, hgivenUp⟩
  refine ⟨last, hlast, hfinal.trans hframe, ?_⟩
  rw [hgivenUp, hsettled, Store.unruled_of_frame hframe]

theorem settle_leads {kind : Task.Kind} (hshows : system.Shows scene)
    (hmatched : Matched scene.workflow scene.task) (hkind : scene.task.kind = some kind)
    (hearly : scene.workflow.isEarly = true → Uncompiled scene.workflow scene.task) :
    (o.settle scene.workflow scene.task.id).Through (fun _ => True) system fun _ final =>
      Leads system (scene.timeless.answered o system.store.unruled) final := by
  unfold settle
  rw [through_bind]
  apply advance_leads hshows
  intro moment met hmet hframe
  unfold Rest
  dsimp only
  rw [through_bind]
  apply through_findTask hmet trivial rfl
  unfold Rest
  dsimp only
  rw [through_bind]
  apply (conclude_leads hmet rfl).mono fun _ => id
  rintro _ next ⟨rfl, reached, hreached, hnext, htimeless⟩
  have hnext : next.frame = system.frame := hnext.trans hframe
  have hsettled : reached.timeless = scene.timeless.settled o := by
    rw [htimeless]
    simp only [Scene.timeless, Scene.settled, Workflow.timeless_advanced]
    rfl
  have hcurrent := scene.workflow.isEarly_iff moment
  unfold Rest
  dsimp only
  unfold Scene.answered
  change Through _ _ _ fun _ final => Leads system
    (if scene.workflow.isEarly = true then _ else _) final
  cases hstage : scene.workflow.isEarly with
  | false =>
    rw [if_neg Bool.false_ne_true]
    have hends : Leads system (scene.timeless.settled o) next :=
      ⟨reached, hreached, hnext, hsettled⟩
    split
    · exact hends
    · rename_i hopen
      have hended : ((scene.workflow.advanced? moment).getD scene.workflow).isRunning = false := by
        rw [← Bool.not_eq_true]
        intro hrunning
        rw [hcurrent.mpr ⟨hrunning, by simpa using hopen⟩] at hstage
        cases hstage
      unfold chain
      rw [if_pos (by simp [hended])]
      exact hends
  | true =>
    rw [if_pos rfl]
    rw [if_neg (by simp [(hcurrent.mp hstage).2])]
    exact chain_early_leads hreached hnext hsettled hmatched hkind hstage (hearly hstage)

theorem Leads.of_frame {next final : System} {expected : Scene} (h : Leads next expected final)
    (hframe : next.frame = system.frame) : Leads system expected final := by
  obtain ⟨reached, hreached, hfinal, htimeless⟩ := h
  exact ⟨reached, hreached, hfinal.trans hframe, htimeless⟩

/-- Once a run has been ended, settling leads to the scene that is expected then. -/
theorem settled_leads {met : System} {after : Scene} (hmet : met.Shows after)
    (hframe : met.frame = system.frame) (hmatched : Matched after.workflow after.task)
    (hkind : after.task.kind ≠ none)
    (hearly : after.workflow.isEarly = true → Uncompiled after.workflow after.task) :
    (o.settle after.workflow after.task.id).Through (fun _ => True) met fun _ final =>
      Leads system (after.timeless.answered o system.store.unruled) final := by
  obtain ⟨kind, hkind⟩ := Option.ne_none_iff_exists'.mp hkind
  apply (settle_leads hmet hmatched hkind hearly).mono fun _ => id
  intro _ final hfinal
  rw [Store.unruled_of_frame hframe] at hfinal
  exact hfinal.of_frame hframe

/-- An answer of the machine-learning engine, whether it is expected or not. -/
theorem onMlFinished_leads (hsound : system.Sound) (hshows : system.Shows scene)
    (hmatched : Matched scene.workflow scene.task) (hphase : Phase scene.workflow scene.task)
    {answer : MlFinished} (hworkflow : answer.workflowId = scene.workflow.id)
    (htask : answer.taskId = scene.task.id) :
    (o.onMlFinished answer).Through (fun _ => True) system fun _ final =>
      Leads system (scene.timeless.mlAnswered o system.store.unruled answer) final := by
  unfold Scene.mlAnswered
  change Through _ _ _ fun _ final => Leads system
    (if scene.task.awaitsMl answer.success = true then _ else _) final
  split
  · rename_i hawaits
    obtain ⟨hruns, hmay⟩ := Bool.and_eq_true_iff.mp hawaits
    unfold onMlFinished
    rw [through_bind]
    apply resolve_through hshows trivial hworkflow htask
    unfold Rest
    dsimp only
    rw [if_neg (by simp [hruns]), if_neg (by simp [RunStatus.open_of_canBecome hmay]),
      through_bind]
    apply through_clock trivial
    intro moment
    obtain ⟨run, hfinished, _⟩ := MlRun.finished_accepted
      (if answer.success = true then answer.result else none) moment hmay
    unfold Rest
    dsimp only
    rw [hfinished]
    dsimp only
    rw [through_bind]
    refine through_calm trivial hshows ?_
    intro now moved met hmoved hmet hframe
    rw [hmoved rfl]
    rw [Scene.after_taskChange rfl] at hmet
    rw [Task.withMl?, if_pos rfl] at hmet ⊢
    have hscene : Scene.timeless { scene with
        task := { scene.task with ml := run, updatedAt := now } } =
          scene.timeless.mlEnded answer := by
      unfold Scene.timeless Scene.mlEnded
      dsimp only
      rw [Task.timeless_finishedMl hfinished]
    have hsettle := settled_leads (o := o) hmet hframe ⟨hmatched.steps, hmatched.kind⟩
      (kind_ne_none_of_runsMl hruns) fun hearly =>
        (uncompiled_of_early hphase hearly).congr rfl rfl
    rw [Option.getD_some, hscene] at hsettle
    exact hsettle
  · rename_i hclosed
    have hunexpected : ¬ system.Expects (.ml answer) := by
      rintro ⟨workflow, task, _, hfound, _, hruns, hmay⟩
      rw [htask, hshows.task, Option.some.injEq] at hfound
      subst hfound
      exact hclosed (Bool.and_eq_true_iff.mpr ⟨hruns, hmay⟩)
    apply (onMlFinished_unexpected hsound hunexpected).mono fun _ => id
    rintro _ _ rfl
    exact ⟨scene, hshows, rfl, rfl⟩

theorem after_insertGroups_nil (now : Timestamp) (taskId : Uuid) :
    scene.after now (.insertGroups taskId []) = scene := by
  rw [Scene.after_insertGroups]
  split
  · simp
  · rfl

/-- Once the findings are stored, the run is ended with them. -/
theorem endSa_leads {met : System} {answer : SaFinished} {run : SaRun} {moment : Timestamp}
    {groups : List FindingGroup} {findings : Table Finding}
    (hmatched : Matched scene.workflow scene.task) (hphase : Phase scene.workflow scene.task)
    (hruns : scene.task.runsSa = true)
    (hmet : met.Shows
      { scene with groups, findings, nextNumber := scene.nextNumber + recordCount answer.rules })
    (hframe : met.frame = system.frame)
    (hstored : scene.after moment (.insertGroups scene.task.id
        (storedReports scene.task.id scene.nextNumber answer.rules)) =
      { scene with groups, findings })
    (hfinished : scene.task.sa.finished answer.success
      ((storedReports scene.task.id scene.nextNumber answer.rules).map fun report =>
        report.group.id) (answer.rules.flatMap fun rule => rule.2.findings).length moment =
          .ok run) (otherwise : Program Unit) :
    (o.endSa scene.workflow scene.task run otherwise).Through (fun _ => True) met
      fun _ final => Leads system
        ((scene.timeless.saEnded answer).answered o system.store.unruled) final := by
  unfold endSa
  rw [through_bind]
  refine through_calm trivial hmet ?_
  intro now moved next hmoved hnext hsame
  rw [hmoved rfl]
  rw [Scene.after_taskChange rfl] at hnext
  rw [Task.withSa?, if_pos rfl] at hnext ⊢
  have hscene : Scene.timeless
      { scene with
        task := { scene.task with
          sa := run, weaknessCount := run.weaknessCount, updatedAt := now }
        groups, findings, nextNumber := scene.nextNumber + recordCount answer.rules } =
      scene.timeless.saEnded answer := by
    have hgroups := congrArg Scene.groups hstored
    have hfindings := congrArg Scene.findings hstored
    unfold Scene.timeless Scene.saEnded
    dsimp only at hgroups hfindings ⊢
    rw [Task.timeless_finishedSa hfinished, ← hgroups, ← hfindings]
    rfl
  have hsettle := settled_leads (o := o) hnext (hsame.trans hframe)
    ⟨hmatched.steps, hmatched.kind⟩ (kind_ne_none_of_runsSa hruns) fun hearly =>
      (uncompiled_of_early hphase hearly).congr rfl rfl
  rw [Option.getD_some, hscene] at hsettle
  exact hsettle

/-- The findings of an expected answer are stored, and the run is ended with them. -/
theorem acceptFindings_leads (hshows : system.Shows scene)
    (hmatched : Matched scene.workflow scene.task) (hphase : Phase scene.workflow scene.task)
    {answer : SaFinished} (hruns : scene.task.runsSa = true)
    (hmay : scene.task.sa.status.canBecome (.ofSuccess answer.success) = true) :
    (o.acceptFindings scene.workflow scene.task answer).Through (fun _ => True) system
      fun _ final => Leads system
        ((scene.timeless.saEnded answer).answered o system.store.unruled) final := by
  unfold acceptFindings
  dsimp only
  rw [through_bind]
  apply through_reserve_calm hshows
  intro reserved hreserved hframe
  unfold Rest
  dsimp only
  rw [through_bind]
  apply through_clock trivial
  intro moment
  obtain ⟨run, hfinished, _⟩ := SaRun.finished_accepted
    ((storedReports scene.task.id scene.nextNumber answer.rules).map fun report =>
      report.group.id) (answer.rules.flatMap fun rule => rule.2.findings).length moment hmay
  unfold Rest
  dsimp only
  rw [hfinished]
  dsimp only
  split
  · rw [through_bind, storeOr, through_bind]
    refine through_calm trivial hreserved ?_
    intro now stored met hstored hmet hsame
    rw [hstored (ownReports_storedReports _ _ _)]
    exact endSa_leads hmatched hphase hruns hmet (hsame.trans hframe) rfl hfinished _
  · rename_i hnone
    have hempty : storedReports scene.task.id scene.nextNumber answer.rules = [] := by
      simpa using hnone
    refine endSa_leads hmatched hphase hruns hreserved hframe ?_ hfinished _
    rw [hempty, after_insertGroups_nil]

/-- An answer of the static analysis. One that is not expected may take numbers. -/
theorem onSaFinished_leads (hsound : system.Sound) (hshows : system.Shows scene)
    (hmatched : Matched scene.workflow scene.task) (hphase : Phase scene.workflow scene.task)
    {answer : SaFinished} (hworkflow : answer.workflowId = scene.workflow.id)
    (htask : answer.taskId = scene.task.id) :
    (o.onSaFinished answer).Through (fun _ => True) system fun _ final =>
      ∃ nextNumber, Leads system
        { scene.timeless.saAnswered o system.store.unruled answer with nextNumber } final := by
  unfold Scene.saAnswered
  change Through _ _ _ fun _ final => ∃ nextNumber, Leads system
    { (if scene.task.awaitsSa answer.success = true then _ else _ : Scene) with nextNumber } final
  split
  · rename_i hawaits
    obtain ⟨hruns, hmay⟩ := Bool.and_eq_true_iff.mp hawaits
    unfold onSaFinished
    rw [through_bind]
    apply resolve_through hshows trivial hworkflow htask
    unfold Rest
    dsimp only
    rw [if_neg (by simp [hruns]), if_neg (by simp [RunStatus.open_of_canBecome hmay])]
    apply (acceptFindings_leads hshows hmatched hphase hruns hmay).mono fun _ => id
    exact fun _ _ hfinal => ⟨_, hfinal⟩
  · rename_i hclosed
    have hunexpected : ¬ system.Expects (.sa answer) := by
      rintro ⟨workflow, task, _, hfound, _, hruns, hmay⟩
      rw [htask, hshows.task, Option.some.injEq] at hfound
      subst hfound
      exact hclosed (Bool.and_eq_true_iff.mpr ⟨hruns, hmay⟩)
    apply (onSaFinished_unexpected hsound hunexpected).mono fun _ => id
    rintro _ final ⟨hstore, hbroker⟩
    have hshown : final.Shows { scene with nextNumber := final.nextNumber } := by
      obtain ⟨hkeyed, hworkflow, htask, hlinked, hcode, hgroups, hfindings, _⟩ := hshows
      rw [← hstore] at hkeyed hworkflow htask hcode hgroups hfindings
      exact ⟨hkeyed, hworkflow, htask, hlinked, hcode, hgroups, hfindings, rfl⟩
    refine ⟨final.nextNumber, _, hshown, ?_, rfl⟩
    rw [System.frame, hstore, hbroker]
    rfl

end Orchestrator

end ScanFlow
