import ScanFlow.Proofs.Record.Answers

/-!
What a dispatch of the analysis leaves behind.

The rules are bound and the runs are started in one write, and then the engines are asked, one
after the other. A dispatch that fails before that write leaves the task as it was. One that
fails after it, since an engine could not be asked, leaves the runs started. Either way the
workflow is ended then.
-/

namespace ScanFlow

/-! ### Runs that have been started -/

def SaRun.begun (run : SaRun) : SaRun :=
  { run with status := .running, startedAt := some .origin }

def MlRun.begun (run : MlRun) : MlRun :=
  { run with status := .running, startedAt := some .origin }

theorem SaRun.mark_begun (run : SaRun) (asked : Bool) :
    (if asked then run.begun else run).mark =
      if asked then { run.mark with status := .running, begun := true } else run.mark := by
  cases asked with
  | true => rfl
  | false => rfl

theorem MlRun.mark_begun (run : MlRun) (asked : Bool) :
    (if asked then run.begun else run).mark =
      if asked then { run.mark with status := .running, begun := true } else run.mark := by
  cases asked with
  | true => rfl
  | false => rfl

/-- With the rules, the runs of the engines that are asked are started. -/
theorem RunMark.Fits.started {mark : RunMark} {runs : Bool} (h : mark.Fits false runs)
    (hpending : mark.status = .pending) :
    (if runs then { mark with status := .running, begun := true } else mark : RunMark).Fits true
      runs := by
  cases runs with
  | true =>
    apply h.begin
    rw [hpending]
    rfl
  | false => exact h.bind

namespace Task

def begun (task : Task) (kind : Task.Kind) (snapshot : TemplateSnapshot) : Task :=
  { task with
    kind := some kind
    snapshot := some snapshot
    sa := if kind.includesSa then task.sa.begun else task.sa
    ml := if kind.includesMl then task.ml.begun else task.ml }

section Begun

variable (task : Task) (kind : Task.Kind) (snapshot : TemplateSnapshot)

theorem begun_resultIds : (task.begun kind snapshot).sa.resultIds = task.sa.resultIds :=
  (apply_ite SaRun.resultIds (kind.includesSa = true) task.sa.begun task.sa).trans (ite_self _)

theorem begun_saCount : (task.begun kind snapshot).sa.weaknessCount = task.sa.weaknessCount :=
  (apply_ite SaRun.weaknessCount (kind.includesSa = true) task.sa.begun task.sa).trans
    (ite_self _)

theorem begun_rawResult : (task.begun kind snapshot).ml.rawResult = task.ml.rawResult :=
  (apply_ite MlRun.rawResult (kind.includesMl = true) task.ml.begun task.ml).trans (ite_self _)

end Begun

structure Unasked (task : Task) : Prop where
  snapshot : task.snapshot = none
  sa : task.sa.status = .pending
  ml : task.ml.status = .pending

variable {task : Task} {kind : Task.Kind}

theorem timeless_bound {sa : SaRun} {ml : MlRun} (snapshot : TemplateSnapshot) (now : Timestamp)
    (hbinds : Orchestrator.Binds kind task sa ml) :
    ({ task with
        kind := some kind, snapshot := some snapshot, sa, ml, updatedAt := now } : Task).timeless =
      task.timeless.begun kind snapshot := by
  obtain ⟨hsa, hml⟩ := hbinds
  have hsame : sa.timeless = if kind.includesSa then task.sa.timeless.begun
      else task.sa.timeless := by
    split at hsa
    · rename_i hincludes
      obtain ⟨moment, hstarted⟩ := hsa
      rw [(SaRun.started_eq_ok hstarted).2, if_pos hincludes]
      rfl
    · rename_i hexcludes
      rw [hsa, if_neg hexcludes]
  have hother : ml.timeless = if kind.includesMl then task.ml.timeless.begun
      else task.ml.timeless := by
    split at hml
    · rename_i hincludes
      obtain ⟨moment, hstarted⟩ := hml
      rw [(MlRun.started_eq_ok hstarted).2, if_pos hincludes]
      rfl
    · rename_i hexcludes
      rw [hml, if_neg hexcludes]
  unfold timeless begun
  dsimp only
  rw [hsame, hother]

theorem Unasked.not_succeeded (h : task.Unasked) :
    task.sa.status ≠ .success ∧ task.ml.status ≠ .success := by
  rw [h.sa, h.ml]
  exact ⟨nofun, nofun⟩

theorem Unasked.timeless (h : task.Unasked) : task.timeless.Unasked := ⟨h.snapshot, h.sa, h.ml⟩

/-- No engine has succeeded as soon as it is asked. -/
theorem Unasked.begun_not_succeeded (h : task.Unasked) (kind : Task.Kind)
    (snapshot : TemplateSnapshot) : (task.begun kind snapshot).sa.status ≠ .success ∧
      (task.begun kind snapshot).ml.status ≠ .success := by
  unfold Task.begun
  constructor
  · dsimp only
    split
    · nofun
    · exact h.not_succeeded.1
  · dsimp only
    split
    · nofun
    · exact h.not_succeeded.2

theorem Unasked.not_both (h : task.Unasked) : task.bothSucceeded = false := by
  simp [bothSucceeded, h.sa]

theorem Consistent.begun (h : task.Consistent) (hunasked : task.Unasked)
    (hkind : task.kind = some kind) (snapshot : TemplateSnapshot) :
    (task.begun kind snapshot).Consistent where
  sa := by
    have hfits := h.sa
    rw [hunasked.snapshot, runsSa, hkind] at hfits
    have hstarted := hfits.started hunasked.sa
    rw [← SaRun.mark_begun] at hstarted
    exact hstarted
  ml := by
    have hfits := h.ml
    rw [hunasked.snapshot, runsMl, hkind] at hfits
    have hstarted := hfits.started hunasked.ml
    rw [← MlRun.mark_begun] at hstarted
    exact hstarted
  unlisted := by
    intro _
    rw [begun_resultIds]
    exact h.unlisted hunasked.not_succeeded.1
  report := fun hsuccess => absurd hsuccess (hunasked.begun_not_succeeded kind snapshot).2
  unreported := by
    intro _
    rw [begun_rawResult]
    exact h.unreported hunasked.not_succeeded.2
  claimed := by
    intro hclaimed
    have hboth := h.claimed hclaimed
    rw [hunasked.not_both] at hboth
    cases hboth
  unmerged := by
    intro hunclaimed
    obtain ⟨hsummary, hcount⟩ := h.unmerged hunclaimed
    refine ⟨hsummary, hcount.trans ?_⟩
    rw [begun_saCount]

end Task

/-! ### Scenes after a dispatch -/

namespace Scene

def aborted (scene : Scene) : Scene := { scene with workflow := scene.workflow.ended .aborted }

def begun (scene : Scene) (kind : Task.Kind) (snapshot : TemplateSnapshot) : Scene :=
  { scene with task := scene.task.begun kind snapshot }

/-- What a scene has become once its analysis has been dispatched and, if that failed, its
workflow has been ended. -/
inductive Launched (before : System) (scene : Scene) (final : System) (after : Scene) : Prop where
  /-- Nothing has been bound. -/
  | failed (h : after.timeless = { scene.timeless.aborted with nextNumber := after.nextNumber })
  /-- There were no rules, and the runs have been given up. -/
  | givenUp
      (h : after.timeless =
        { scene.timeless.aborted with
          task := scene.timeless.task.givenUp
          nextNumber := after.nextNumber })
  /-- Every engine has been asked. -/
  | asked (kind : Task.Kind) (snapshot : TemplateSnapshot)
      (hkind : scene.workflow.shape.taskKind? = some kind)
      (h : after.timeless =
        { scene.timeless.begun kind snapshot with nextNumber := after.nextNumber })
      (hrequested : final.Requested before after.workflow after.task)
  /-- The runs have been started, and some engine could not be asked. -/
  | refused (kind : Task.Kind) (snapshot : TemplateSnapshot)
      (hkind : scene.workflow.shape.taskKind? = some kind)
      (h : after.timeless =
        { (scene.timeless.begun kind snapshot).aborted with nextNumber := after.nextNumber })
      (hrequested : ¬ final.Requested before after.workflow after.task)

variable {before final : System} {scene after : Scene}

theorem Orderly.begun (h : scene.Orderly) (hunasked : scene.task.Unasked) {kind : Task.Kind}
    (hkind : scene.task.kind = some kind) (snapshot : TemplateSnapshot) (workflow : Workflow) :
    ({ scene with workflow, task := scene.task.begun kind snapshot } : Scene).Orderly := by
  refine ⟨h.consistent.begun hunasked hkind snapshot, h.listed.of_list workflow rfl ?_ ?_⟩
  · exact scene.task.begun_resultIds kind snapshot
  · exact scene.task.begun_saCount kind snapshot

/-- A dispatch keeps the records of the task in order. -/
theorem Launched.orderly (h : scene.Launched before final after) (horderly : scene.Orderly)
    (hunasked : scene.task.Unasked)
    (hmatched : scene.task.kind = scene.workflow.shape.taskKind?) : after.Orderly := by
  have hstart : scene.timeless.Orderly := (timeless_same scene).orderly horderly
  cases h with
  | failed h =>
    exact (same_of_timeless h).orderly ⟨hstart.consistent, hstart.listed.of_list _ rfl rfl rfl⟩
  | givenUp h => exact (same_of_timeless h).orderly (hstart.givenUp _)
  | asked kind snapshot hkind h =>
    exact (same_of_timeless h).orderly
      (hstart.begun hunasked.timeless (hmatched.trans hkind) snapshot _)
  | refused kind snapshot hkind h =>
    exact (same_of_timeless h).orderly
      (hstart.begun hunasked.timeless (hmatched.trans hkind) snapshot _)

/-- After a dispatch no engine has succeeded yet. -/
theorem Launched.not_both (h : scene.Launched before final after) (hunasked : scene.task.Unasked) :
    after.task.bothSucceeded = false := by
  have hnot : after.timeless.task.bothSucceeded = false := by
    have hbegun : ∀ kind snapshot,
        (scene.timeless.task.begun kind snapshot).bothSucceeded = false := by
      intro kind snapshot
      rw [Task.bothSucceeded, Bool.and_eq_false_iff, decide_eq_false_iff_not]
      exact Or.inl (hunasked.timeless.begun_not_succeeded kind snapshot).1
    cases h with
    | failed h =>
      rw [h]
      exact hunasked.timeless.not_both
    | givenUp h =>
      rw [h]
      rcases scene.timeless.task.givenUp_cases with hsame | hnot
      · dsimp only
        rw [hsame]
        exact hunasked.timeless.not_both
      · exact hnot
    | asked kind snapshot _ h =>
      rw [h]
      exact hbegun kind snapshot
    | refused kind snapshot _ h =>
      rw [h]
      exact hbegun kind snapshot
  exact hnot

/-- A dispatch is about one workflow and its task, and stores no findings. -/
theorem Launched.akin (h : scene.Launched before final after) : scene.Akin after := by
  have hended := Workflow.ended_given scene.timeless.workflow .aborted
  cases h with
  | failed h => exact akin_of_timeless h ⟨hended, rfl, rfl, rfl⟩
  | givenUp h =>
    have hexpected : scene.Akin
        { scene.timeless.aborted with task := scene.timeless.task.givenUp } :=
      ⟨hended, Task.givenUp_id scene.timeless.task, rfl, rfl⟩
    exact akin_of_timeless h hexpected
  | asked kind snapshot _ h => exact akin_of_timeless h ⟨rfl, rfl, rfl, rfl⟩
  | refused kind snapshot _ h => exact akin_of_timeless h ⟨hended, rfl, rfl, rfl⟩

end Scene

namespace Orchestrator

open Program

variable {o : Orchestrator} {system before : System} {scene : Scene}

/-- How many engines are asked depends on the kind only. -/
theorem analysisRequests_length (kind : Task.Kind) (request other : AnalysisRequest) :
    (analysisRequests kind request).length = (analysisRequests kind other).length := by
  cases kind <;> rfl

theorem not_requested_of_fewer {final : System} {workflow : Workflow} {task : Task}
    {kind : Task.Kind} (hkind : workflow.shape.taskKind? = some kind) (request : AnalysisRequest)
    (hfewer : final.broker.waiting.length <
      before.broker.waiting.length + (analysisRequests kind request).length) :
    ¬ final.Requested before workflow task := by
  rintro ⟨other, snapshot, source, hother, _, hwaiting⟩
  rw [hkind, Option.some.injEq] at hother
  subst hother
  rw [hwaiting, List.length_append, List.length_map, analysisRequests_length kind _ request]
    at hfewer
  exact Nat.lt_irrefl _ hfewer

/-- Ending the workflow after a failure leaves the scene as a dispatch does. -/
def Abandons (before : System) (scene : Scene) (system : System) (met : Scene) : Prop :=
  ∀ now (next : System),
    next.Shows
      { met with workflow := (met.workflow.finished? .aborted now).getD met.workflow } →
    next.broker = system.broker → ∃ after, next.Shows after ∧ scene.Launched before next after

theorem abandons_unbound (scene : Scene) (system : System) (nextNumber : Nat) :
    Abandons before scene system { scene with nextNumber } := by
  intro now next hnext _
  refine ⟨_, hnext, .failed ?_⟩
  simp only [Scene.timeless, Scene.aborted, Workflow.timeless_finished]

variable {post : Except ServiceError DispatchOutcome → System → Prop}

theorem requestAnalysis_launches {kind : Task.Kind} (snapshot : TemplateSnapshot)
    (hshows : system.Shows scene) (hkind : scene.workflow.shape.taskKind? = some kind)
    (hsnapshot : scene.task.snapshot = none)
    (hwaiting : system.broker.waiting = before.broker.waiting)
    (hasked : ∀ done (final : System) after, final.Shows after →
      after.timeless =
        { scene.timeless.begun kind snapshot with nextNumber := after.nextNumber } →
      final.Requested before after.workflow after.task → post (.ok done) final)
    (herror : ∀ e (final : System) met, final.Shows met → met.workflow = scene.workflow →
      Abandons before scene final met → post (.error e) final) :
    (o.requestAnalysis scene.workflow scene.task kind snapshot).Through (fun _ => True) system
      post := by
  refine requestAnalysis_through trivial
    (fun e => herror e system scene hshows rfl (abandons_unbound scene system _)) ?_
  intro url sa ml hbinds
  rw [bindAndSend, through_bind]
  apply through_bindAnalysis hshows rfl
  intro now next hnext hbroker
  simp only [Task.withAnalysis?, hsnapshot, Option.isSome_none, Bool.false_eq_true, if_false,
    Option.isSome_some, Option.getD_some, Rest, if_true, true_and] at hnext ⊢
  rw [through_bind]
  have hbegun := Task.timeless_bound snapshot now hbinds
  refine sendAll_through _ hnext ?_ ?_
  · intro final nextNumber hfinal hsent
    refine hasked _ final _ hfinal ?_ ?_
    · simp only [Scene.timeless, Scene.begun, hbegun]
    · refine ⟨kind, snapshot, url, hkind, rfl, ?_⟩
      rw [hsent, hbroker, hwaiting]
  · intro e final nextNumber hfinal hfewer
    rw [hbroker, hwaiting] at hfewer
    refine herror e final _ hfinal rfl ?_
    intro moment last hlast hsame
    refine ⟨_, hlast, .refused kind snapshot hkind ?_ ?_⟩
    · simp only [Scene.timeless, Scene.begun, Scene.aborted, hbegun, Workflow.timeless_finished]
    · rw [← hsame] at hfewer
      refine not_requested_of_fewer ?_ _ hfewer
      have hfixed : ((scene.workflow.finished? .aborted moment).getD scene.workflow).fixed =
        scene.workflow.fixed := abortedAt_fixed
      exact (congrArg Shape.taskKind? (Workflow.shape_of_fixed hfixed)).trans hkind

/-- The analysis of a task that no engine has been asked about is dispatched. If that does not
fail, the engines have been asked, or nothing has been sent and the runs have been given up. -/
theorem dispatchAnalysis_launches (hshows : system.Shows scene)
    (hmatched : Matched scene.workflow scene.task) (hsnapshot : scene.task.snapshot = none)
    (hwaiting : system.broker.waiting = before.broker.waiting)
    (hasked : ∀ done (final : System) after kind snapshot, final.Shows after →
      scene.workflow.shape.taskKind? = some kind →
      after.timeless =
        { scene.timeless.begun kind snapshot with nextNumber := after.nextNumber } →
      final.Requested before after.workflow after.task → post (.ok done) final)
    (hgivenUp : ∀ done (final : System) after, final.Shows after →
      after.timeless =
        { scene.timeless.aborted with
          task := scene.timeless.task.givenUp
          nextNumber := after.nextNumber } →
      final.broker = system.broker → post (.ok done) final)
    (herror : ∀ e (final : System) met, final.Shows met → met.workflow = scene.workflow →
      Abandons before scene final met → post (.error e) final) :
    (o.dispatchAnalysis scene.workflow).Through (fun _ => True) system post := by
  have hfails : ∀ e, post (.error e) system :=
    fun e => herror e system scene hshows rfl (abandons_unbound scene system _)
  unfold dispatchAnalysis
  rw [through_bind]
  apply through_task hshows trivial hshows.linked
  unfold Rest
  dsimp only
  rw [if_neg (by simp [hsnapshot])]
  cases hkind : scene.workflow.shape.taskKind? with
  | none => exact hfails _
  | some kind =>
    dsimp only
    rw [through_bind]
    apply captureRules_through scene.workflow trivial
    intro outcome
    cases outcome with
    | error e => exact hfails e
    | ok captured =>
      cases captured with
      | some snapshot =>
        exact requestAnalysis_launches snapshot hshows hkind hsnapshot hwaiting
          (fun done final after hafter => hasked done final after kind snapshot hafter hkind) herror
      | none =>
        apply (abortWithoutRules_leads hshows rfl (hmatched.kind.trans hkind)).mono fun _ => id
        rintro _ final ⟨rfl, reached, hreached, hframe, htimeless⟩
        have hbroker : final.broker = system.broker := congrArg (fun frame => frame.1) hframe
        refine hgivenUp _ final reached hreached ?_ hbroker
        have hnumber : reached.nextNumber = scene.nextNumber :=
          (congrArg Scene.nextNumber htimeless :)
        rw [htimeless, hnumber]
        rfl

/-- Going on to the analysis. -/
theorem chain_launches (hshows : system.Shows scene)
    (hrunning : scene.workflow.status = .running)
    (hstage : scene.workflow.nextStage? = some .analysis)
    (hmatched : Matched scene.workflow scene.task) (hsnapshot : scene.task.snapshot = none)
    (hwaiting : system.broker.waiting = before.broker.waiting) :
    (o.chain scene.workflow).Through (fun _ => True) system fun _ final =>
      ∃ after, final.Shows after ∧ scene.Launched before final after := by
  unfold chain
  rw [if_neg (by simp [Workflow.isRunning, hrunning]), hstage]
  dsimp only
  rw [through_bind, through_attempt]
  refine dispatchAnalysis_launches hshows hmatched hsnapshot hwaiting ?_ ?_ ?_
  · intro done final after kind snapshot hafter hkind htimeless hrequested
    exact ⟨after, hafter, .asked kind snapshot hkind htimeless hrequested⟩
  · intro done final after hafter htimeless _
    exact ⟨after, hafter, .givenUp htimeless⟩
  · intro e final met hmet hworkflow habandons
    unfold Rest
    dsimp only
    refine through_finish hmet (by rw [hworkflow]) ?_
    intro now next hnext hbroker
    exact ⟨trivial, habandons now next hnext hbroker⟩

end Orchestrator

end ScanFlow
