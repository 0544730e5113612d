import ScanFlow.Proofs.Record.Dispatch

/-!
Where an analysis is dispatched from.

A workflow that compiles goes on to its analysis with the answer of the compiler; any other one
begins with it. Either way no engine has been asked about the task before.
-/

namespace ScanFlow

def Task.withTarget (task : Task) (artifact : CompileArtifact) (saProgress : Option Nat) : Task :=
  { task with
    targetName := artifact.name
    targetKey := some artifact.objectKey
    sa := { task.sa with progress := saProgress.getD task.sa.progress } }

theorem Task.Consistent.withTarget {task : Task} (h : task.Consistent)
    (hpending : task.sa.status = .pending) (artifact : CompileArtifact) (saProgress : Option Nat)
    (hprogress : ∀ progress, saProgress = some progress → progress = compiledProgress) :
    (task.withTarget artifact saProgress).Consistent where
  sa := by
    cases saProgress with
    | none => exact h.sa
    | some progress =>
      rw [hprogress progress rfl]
      exact h.sa.compiled hpending
  ml := h.ml
  unlisted := h.unlisted
  report := h.report
  unreported := h.unreported
  claimed := h.claimed
  unmerged := h.unmerged

theorem Compiling.unasked {workflow : Workflow} {task : Task} (h : Compiling workflow task) :
    task.Unasked := ⟨h.snapshot, h.sa, h.ml⟩

theorem Fresh.unasked {workflow : Workflow} {task : Task} (h : Fresh workflow task) :
    task.Unasked := ⟨h.snapshot, h.sa, h.ml⟩

namespace Scene

def compiledTo (scene : Scene) (artifact : CompileArtifact) : Scene :=
  { scene with
    workflow := scene.workflow.counted
    task := scene.task.withTarget artifact
      (if scene.workflow.shape.runsSa then some compiledProgress else none) }

inductive CompileAnswered (before : System) (scene : Scene) (final : System) (after : Scene) :
    Prop where
  /-- The answer is not expected. -/
  | dropped (h : after = scene)
  /-- The compiler has failed. -/
  | failed (hcompiling : Compiling scene.workflow scene.task)
      (h : after.timeless = { scene.timeless.aborted with nextNumber := after.nextNumber })
  /-- There is nothing to be analysed. -/
  | completed (artifact : CompileArtifact) (hcompiling : Compiling scene.workflow scene.task)
      (h : after.timeless =
        { scene.timeless.compiledTo artifact with
          workflow := scene.timeless.workflow.counted.ended .complete
          nextNumber := after.nextNumber })
  /-- The analysis has been dispatched. -/
  | launched (artifact : CompileArtifact) (mid : Scene)
      (hcompiling : Compiling scene.workflow scene.task)
      (hmid : mid.timeless =
        { scene.timeless.compiledTo artifact with nextNumber := mid.nextNumber })
      (hlaunched : mid.Launched before final after)

variable {before final : System} {scene mid after : Scene} {artifact : CompileArtifact}

theorem Orderly.compiledTo (h : scene.Orderly) (hpending : scene.task.sa.status = .pending)
    (artifact : CompileArtifact) (workflow : Workflow) :
    ({ scene.compiledTo artifact with workflow } : Scene).Orderly := by
  refine ⟨h.consistent.withTarget hpending _ _ ?_, h.listed.of_list workflow rfl rfl rfl⟩
  intro progress hprogress
  split at hprogress
  · exact (Option.some.inj hprogress).symm
  · cases hprogress

theorem unasked_of_compiledTo (hunasked : scene.task.Unasked)
    (hmid : mid.timeless = { scene.timeless.compiledTo artifact with
      nextNumber := mid.nextNumber }) : mid.task.Unasked where
  snapshot := (congrArg (fun scene : Scene => scene.task.snapshot) hmid :).trans hunasked.snapshot
  sa := (congrArg (fun scene : Scene => scene.task.sa.status) hmid :).trans hunasked.sa
  ml := (congrArg (fun scene : Scene => scene.task.ml.status) hmid :).trans hunasked.ml

theorem akin_of_compiledTo
    (hmid : mid.timeless = { scene.timeless.compiledTo artifact with
      nextNumber := mid.nextNumber }) : scene.Akin mid :=
  akin_of_timeless hmid ⟨Workflow.counted_given scene.timeless.workflow, rfl, rfl, rfl⟩

/-- An answer of the compiler keeps the records of the task in order. -/
theorem CompileAnswered.orderly (h : scene.CompileAnswered before final after)
    (horderly : scene.Orderly) (hmatched : Matched scene.workflow scene.task) :
    after.Orderly := by
  have hstart : scene.timeless.Orderly := (timeless_same scene).orderly horderly
  cases h with
  | dropped h =>
    rw [h]
    exact horderly
  | failed _ h =>
    exact (same_of_timeless h).orderly ⟨hstart.consistent, hstart.listed.of_list _ rfl rfl rfl⟩
  | completed artifact hcompiling h =>
    exact (same_of_timeless h).orderly (hstart.compiledTo hcompiling.sa artifact _)
  | launched artifact mid hcompiling hmid hlaunched =>
    have hbound : mid.Orderly :=
      (same_of_timeless hmid).orderly (hstart.compiledTo hcompiling.sa artifact _)
    refine hlaunched.orderly hbound (unasked_of_compiledTo hcompiling.unasked hmid) ?_
    have hkind : mid.task.kind = scene.task.kind :=
      (congrArg (fun scene : Scene => scene.task.kind) hmid :)
    rw [hkind, Workflow.shape_of_given (akin_of_compiledTo hmid).given]
    exact hmatched.kind

/-- An answer of the compiler is about one workflow and its task, and stores no findings. -/
theorem CompileAnswered.akin (h : scene.CompileAnswered before final after) : scene.Akin after := by
  have hcounted := Workflow.counted_given scene.timeless.workflow
  cases h with
  | dropped h =>
    rw [h]
    exact ⟨rfl, rfl, rfl, rfl⟩
  | failed _ h =>
    have hended := Workflow.ended_given scene.timeless.workflow .aborted
    exact akin_of_timeless h ⟨hended, rfl, rfl, rfl⟩
  | completed artifact _ h =>
    have hended := Workflow.ended_given scene.timeless.workflow.counted .complete
    have hexpected : scene.Akin { scene.timeless.compiledTo artifact with
        workflow := scene.timeless.workflow.counted.ended .complete } :=
      ⟨hended.trans hcounted, rfl, rfl, rfl⟩
    exact akin_of_timeless h hexpected
  | launched artifact mid _ hmid hlaunched => exact (akin_of_compiledTo hmid).trans hlaunched.akin

/-- An answer of the compiler is only expected before the analysis. -/
theorem CompileAnswered.dropped_or_compiling (h : scene.CompileAnswered before final after) :
    after = scene ∨ Compiling scene.workflow scene.task := by
  cases h with
  | dropped h => exact Or.inl h
  | failed hcompiling => exact Or.inr hcompiling
  | completed _ hcompiling => exact Or.inr hcompiling
  | launched _ _ hcompiling => exact Or.inr hcompiling

/-- An answer of the compiler that is expected leaves a task that no engine has succeeded on. -/
theorem CompileAnswered.not_both (h : scene.CompileAnswered before final after) :
    after = scene ∨ after.task.bothSucceeded = false := by
  cases h with
  | dropped h => exact Or.inl h
  | failed hcompiling h =>
    refine Or.inr ?_
    exact (congrArg (fun scene : Scene => scene.task.bothSucceeded) h :).trans
      hcompiling.unasked.not_both
  | completed artifact hcompiling h =>
    refine Or.inr ?_
    exact (congrArg (fun scene : Scene => scene.task.bothSucceeded) h :).trans
      hcompiling.unasked.not_both
  | launched artifact mid hcompiling hmid hlaunched =>
    exact Or.inr (hlaunched.not_both (unasked_of_compiledTo hcompiling.unasked hmid))

end Scene

structure Scene.Ready (scene : Scene) : Prop where
  running : scene.workflow.status = .running
  stage : scene.workflow.nextStage? = some .analysis
  matched : Matched scene.workflow scene.task
  snapshot : scene.task.snapshot = none

/-! ### The first stage -/

def Shape.firstQueues (shape : Shape) : List Queue :=
  if shape.runsCompile then [.saCompile]
  else (if shape.runsSa then [.saEngine] else []) ++ if shape.runsMl then [.mlEngine] else []

theorem Shape.not_compiling_of_first {shape : Shape} (h : shape.stageAt? 0 = some .analysis) :
    shape.runsCompile = false := by
  cases shape with
  | compile | compileSa | compileSaMl => cases h
  | sa | ml | saMl => rfl

theorem Shape.queues_of_kind {shape : Shape} {kind : Task.Kind}
    (hcompile : shape.runsCompile = false) (hkind : shape.taskKind? = some kind)
    (request : AnalysisRequest) :
    (Orchestrator.analysisRequests kind request).map EngineRequest.queue = shape.firstQueues := by
  cases shape with
  | compile | compileSa | compileSaMl => cases hcompile
  | sa | ml | saMl =>
    cases hkind
    rfl

/-- Beside what was there before, the queues hold one request about the workflow for each engine
of its first stage. -/
def System.AsksFirst (before final : System) (workflow : Workflow) : Prop :=
  ∃ requests : List EngineRequest,
    requests.map EngineRequest.queue = workflow.shape.firstQueues ∧
    (∀ request ∈ requests, request.workflowId = workflow.id) ∧
    final.broker.waiting = before.broker.waiting ++
      requests.map fun request => (request.queue, request.toJson)

/-- What is told about a new workflow once its first stage has been dispatched: its engines have
been asked, it has been given up without a request, or the dispatch has failed and ended it. -/
inductive Scene.Told (before : System) (scene : Scene) (final : System) (after : Scene) :
    Except ServiceError Unit → Prop where
  | asked (hopen : after.workflow.timeless = scene.workflow.timeless)
      (hasked : before.AsksFirst final scene.workflow) : Told before scene final after (.ok ())
  | givenUp (hended : after.workflow.timeless = scene.workflow.timeless.ended .aborted)
      (hquiet : final.broker = before.broker) :
      Told before scene final after (.ok ())
  | failed (e : ServiceError)
      (hended : after.workflow.timeless = scene.workflow.timeless.ended .aborted) :
      Told before scene final after (.error e)

namespace Orchestrator

open Program

variable {o : Orchestrator} {system : System} {scene : Scene}
  {post : Except ServiceError Unit → System → Prop}

/-- Once the compile stage has been counted, the analysis is next, unless there is none. -/
theorem ready_after_compile {mid : Scene} {artifact : CompileArtifact} {moment : Timestamp}
    (hcompiling : Compiling scene.workflow scene.task)
    (hmatched : Matched scene.workflow scene.task)
    (hmid : mid.timeless =
      { scene.timeless.compiledTo artifact with
        workflow := scene.timeless.workflow, nextNumber := mid.nextNumber })
    (hworkflow : mid.workflow = scene.workflow)
    (hone : (mid.workflow.stepped moment).progress = 1)
    (hleft : ¬ (mid.workflow.stepped moment).isFullyProgressed = true) :
    Scene.Ready { mid with workflow := mid.workflow.stepped moment } := by
  have hkind : mid.task.kind = scene.task.kind :=
    (congrArg (fun scene : Scene => scene.task.kind) hmid :)
  have hsnapshot : mid.task.snapshot = scene.task.snapshot :=
    (congrArg (fun scene : Scene => scene.task.snapshot) hmid :)
  have hreached : Matched (mid.workflow.stepped moment) mid.task := by
    refine ⟨?_, ?_⟩
    · simp [Workflow.stepped, hworkflow, hmatched.steps]
    · simp [Workflow.stepped, hworkflow, hkind, hmatched.kind]
  have hshape : (mid.workflow.stepped moment).shape.runsCompile = true := by
    simp [Workflow.stepped, hworkflow, hcompiling.shape]
  exact ⟨hworkflow ▸ hcompiling.running, analysis_after_compile hreached hshape hone hleft,
    hreached, hsnapshot.trans hcompiling.snapshot⟩

/-- Going on after the compile stage: to the end, or to the analysis. -/
theorem advanceCompiled_goesOn {mid : Scene} (artifact : CompileArtifact)
    (hcompiling : Compiling scene.workflow scene.task)
    (hmatched : Matched scene.workflow scene.task) (hshows : system.Shows mid)
    (hmid : mid.timeless =
      { scene.timeless.compiledTo artifact with
        workflow := scene.timeless.workflow, nextNumber := mid.nextNumber })
    (hworkflow : mid.workflow = scene.workflow)
    (hends : ∀ (final : System) after, scene.workflow.steps ≤ 1 → final.Shows after →
      after.timeless =
        { scene.timeless.compiledTo artifact with
          workflow := scene.timeless.workflow.counted.ended .complete
          nextNumber := after.nextNumber } → post (.ok ()) final)
    (hgoes : ∀ (next : System) reached, next.Shows reached → next.broker = system.broker →
      reached.timeless =
        { scene.timeless.compiledTo artifact with nextNumber := reached.nextNumber } →
      reached.Ready → (o.chain reached.workflow).Through (fun _ => True) next post) :
    (o.advanceCompiled mid.workflow).Through (fun _ => True) system post := by
  have hrunning : mid.workflow.status = .running := hworkflow ▸ hcompiling.running
  have hless : mid.workflow.progress < mid.workflow.steps := by
    rw [hworkflow, hcompiling.progress, hmatched.steps]
    exact Nat.pos_of_ne_zero (first_stage _).1
  unfold advanceCompiled
  rw [through_bind]
  apply through_clock trivial
  intro moment
  change Through _ (_ >>= _) _ _
  rw [through_bind]
  apply through_advance hshows rfl
  intro next hnext hsame
  have hcounted : (mid.workflow.stepped moment).timeless = scene.timeless.workflow.counted := by
    have htimeless := mid.workflow.timeless_advanced moment
    rw [Workflow.advanced?_eq_stepped hrunning hless, Option.getD_some, hworkflow] at htimeless
    rw [hworkflow]
    exact htimeless
  rw [Workflow.advanced?_eq_stepped hrunning hless, Option.getD_some] at hnext
  rw [Workflow.advanced?_eq_stepped hrunning hless]
  -- But for its workflow, the scene is the one that is expected.
  have hrest : ∀ workflow : Workflow, ({ mid.timeless with workflow } : Scene) =
      { scene.timeless.compiledTo artifact with workflow, nextNumber := mid.nextNumber } := by
    intro workflow
    rw [hmid]
  have hone : (mid.workflow.stepped moment).progress = 1 := by
    simp [Workflow.stepped, hworkflow, hcompiling.progress]
  refine ⟨trivial, ?_⟩
  unfold Rest goOn
  dsimp only
  split
  · rename_i hfull
    have hsteps : scene.workflow.steps ≤ 1 := by
      rw [Workflow.isFullyProgressed_iff, hone] at hfull
      simpa [Workflow.stepped, hworkflow] using hfull
    refine through_finish hnext rfl ?_
    intro now last hlast _
    refine ⟨trivial, hends last _ hsteps hlast ?_⟩
    rw [← hrest, ← hcounted, ← Workflow.timeless_finished _ _ now]
    rfl
  · rename_i hleft
    refine hgoes next _ hnext hsame ?_
      (ready_after_compile hcompiling hmatched hmid hworkflow hone hleft)
    change _ = { scene.timeless.compiledTo artifact with
      workflow := scene.timeless.workflow.counted, nextNumber := mid.nextNumber }
    rw [← hrest, ← hcounted]
    rfl

/-- Accepting the artifact that is waited for. -/
theorem acceptArtifact_goesOn (hshows : system.Shows scene)
    (hmatched : Matched scene.workflow scene.task)
    (hcompiling : Compiling scene.workflow scene.task) (artifact : CompileArtifact)
    (hends : ∀ (final : System) after, scene.workflow.steps ≤ 1 → final.Shows after →
      after.timeless =
        { scene.timeless.compiledTo artifact with
          workflow := scene.timeless.workflow.counted.ended .complete
          nextNumber := after.nextNumber } → post (.ok ()) final)
    (hgoes : ∀ (next : System) reached, next.Shows reached → next.broker = system.broker →
      reached.timeless =
        { scene.timeless.compiledTo artifact with nextNumber := reached.nextNumber } →
      reached.Ready → (o.chain reached.workflow).Through (fun _ => True) next post) :
    (o.acceptArtifact scene.workflow scene.task artifact).Through (fun _ => True) system post := by
  unfold acceptArtifact
  dsimp only
  rw [through_bind]
  apply through_setArtifact hshows rfl
  intro now met hmet hsame
  obtain ⟨bound, hbound⟩ : ∃ bound, scene.task.withArtifact? artifact.name artifact.objectKey
      (if scene.workflow.shape.runsSa then some compiledProgress else none) now = some bound := by
    simp [Task.withArtifact?, hcompiling.target]
  have htask := (Task.withArtifact?_eq_some hbound).2
  rw [hbound] at hmet ⊢
  refine ⟨trivial, ?_⟩
  change Through _ (_ >>= _) _ _
  rw [through_bind]
  apply through_newId hmet
  intro id counted hcounted hstill
  refine ⟨trivial, ?_⟩
  change Through _ (_ >>= _) _ _
  rw [through_bind]
  apply through_clock trivial
  intro created
  change Through _ (_ >>= _) _ _
  rw [through_bind]
  apply through_registerCompiled hcounted (by simp [htask])
  intro added next hnext hlast
  refine ⟨trivial, ?_⟩
  have hbroker : next.broker = system.broker := by rw [hlast, hstill, hsame]
  have hadvance := advanceCompiled_goesOn (o := o) artifact hcompiling hmatched hnext ?_ rfl hends
    (hbroker ▸ hgoes)
  · exact hadvance
  · simp only [Scene.timeless, Scene.compiledTo, Option.getD_some, htask]
    rfl

/-- What an answer of the compiler does, whether it is expected or not. -/
theorem onCompileFinished_answers (hshows : system.Shows scene)
    (hmatched : Matched scene.workflow scene.task) (hphase : Phase scene.workflow scene.task)
    {answer : CompileFinished} (hmessage : answer.workflowId = scene.workflow.id) :
    (o.onCompileFinished answer).Through (fun _ => True) system fun _ final =>
      ∃ after, final.Shows after ∧ scene.CompileAnswered system final after := by
  unfold onCompileFinished
  rw [through_bind]
  apply through_findWorkflow hshows trivial hmessage
  unfold Rest
  dsimp only
  split
  · exact ⟨scene, hshows, .dropped rfl⟩
  rename_i hguard
  simp only [Bool.or_eq_true, Bool.not_eq_true', decide_eq_true_eq, not_or, Bool.not_eq_false,
    ne_eq, Decidable.not_not] at hguard
  have hcompiling := compiling_of_stage hmatched hphase (Workflow.isRunning_iff.mp hguard.1)
    hguard.2
  split
  · refine through_finish hshows rfl ?_
    intro now next hnext _
    refine ⟨trivial, _, hnext, .failed hcompiling ?_⟩
    simp only [Scene.timeless, Scene.aborted, Workflow.timeless_finished]
  split
  · exact ⟨scene, hshows, .dropped rfl⟩
  rename_i artifact _
  rw [through_bind]
  apply through_findTask hshows trivial hshows.linked
  refine acceptArtifact_goesOn hshows hmatched hcompiling artifact ?_ ?_
  · intro final after _ hafter hcompleted
    exact ⟨after, hafter, .completed artifact hcompiling hcompleted⟩
  · intro next mid hnext hbroker hmid hready
    have hwaiting : next.broker.waiting = system.broker.waiting := by rw [hbroker]
    apply (chain_launches hnext hready.running hready.stage hready.matched hready.snapshot
      hwaiting).mono fun _ => id
    rintro _ final ⟨after, hafter, hlaunched⟩
    exact ⟨after, hafter, .launched artifact mid hcompiling hmid hlaunched⟩

/-! ### The first dispatch -/

/-- The compiler is asked for the archive of a code, or nothing is sent. -/
theorem dispatchCompile_through (workflow : Workflow) (hshows : system.Shows scene)
    {post : Except ServiceError DispatchOutcome → System → Prop}
    (hasked : ∀ done (next : System) nextNumber request, next.Shows { scene with nextNumber } →
      next.broker.waiting = system.broker.waiting ++
        [(Queue.saCompile, (EngineRequest.compile request).toJson)] →
      request.workflowId = workflow.id → post (.ok done) next)
    (hfails : ∀ e, post (.error e) system) :
    (o.dispatchCompile workflow).Through (fun _ => True) system post := by
  unfold dispatchCompile
  rw [through_bind]
  refine through_require (fun _ _ => rfl) trivial (fun _ code _ => ?_) (hfails _)
  change Through _ (_ >>= _) _ _
  rw [through_bind]
  refine through_require (fun _ _ => rfl) trivial (fun _ source _ => ?_) (hfails _)
  change Through _ (_ >>= _) _ _
  rw [through_bind]
  refine through_blobUrl trivial ?_ hfails
  intro url
  change Through _ (_ >>= _) _ _
  rw [through_bind]
  refine through_sendRequest hshows trivial ?_ hfails
  intro id next hnext hbroker
  let request : CompileRequest :=
    { workflowId := workflow.id, source := url, filename := source.name }
  refine ⟨trivial, hasked _ next _ request hnext ?_ rfl⟩
  rw [hbroker, Broker.waiting_publish]
  rfl

/-- A dispatch that failed ends the workflow. -/
theorem failed_launches {before met : System} {reached : Scene} (e : ServiceError)
    (hreached : met.Shows reached) (hworkflow : reached.workflow = scene.workflow)
    (habandons : Abandons before scene met reached) :
    (Program.finish scene.workflow.id .aborted >>= fun _ => Program.fail (α := Unit) e).Through
      (fun _ => True) met fun outcome final => ∃ after, final.Shows after ∧
        (after.timeless = { scene.timeless with nextNumber := after.nextNumber } ∨
          scene.Launched before final after) ∧ scene.Told before final after outcome := by
  rw [through_bind]
  refine through_finish hreached (by rw [hworkflow]) ?_
  intro now next hnext hsame
  obtain ⟨after, hafter, hlaunched⟩ := habandons now next hnext hsame
  refine ⟨trivial, after, hafter, Or.inr hlaunched, .failed e ?_⟩
  have hid : after.workflow.id =
      ((reached.workflow.finished? .aborted now).getD reached.workflow).id := by
    rw [Workflow.id_of_given hlaunched.akin.given, hworkflow]
    exact (Workflow.id_of_fixed abortedAt_fixed).symm
  have hstored := hafter.workflow
  rw [hid, hnext.workflow, Option.some.injEq] at hstored
  rw [← hstored, Workflow.timeless_finished, hworkflow]

/-- What the first dispatch makes of a new scene: the compiler has been asked, or the analysis
has been dispatched. A dispatch that failed has ended the workflow. -/
theorem dispatchFirst_launches {before : System} (hshows : system.Shows scene)
    (hmatched : Matched scene.workflow scene.task) (hfresh : Fresh scene.workflow scene.task)
    (hbroker : system.broker = before.broker) :
    (o.dispatchFirst scene.workflow).Through (fun _ => True) system fun outcome final =>
      ∃ after, final.Shows after ∧
        (after.timeless = { scene.timeless with nextNumber := after.nextNumber } ∨
          scene.Launched before final after) ∧ scene.Told before final after outcome := by
  have hwaiting : system.broker.waiting = before.broker.waiting := congrArg Broker.waiting hbroker
  have hnext := nextStage?_of_fresh hmatched hfresh
  rcases (first_stage scene.workflow.shape).2 with ⟨hstage, hcompile⟩ | ⟨hstage, hone, _⟩
  · rw [hstage] at hnext
    unfold dispatchFirst
    rw [hnext]
    dsimp only
    rw [through_bind, through_attempt]
    refine dispatchCompile_through scene.workflow hshows ?_ ?_
    · intro done met nextNumber request hmet hasked habout
      refine ⟨_, hmet, Or.inl rfl, .asked rfl ⟨[.compile request], ?_, ?_, ?_⟩⟩
      · exact (if_pos hcompile).symm
      · exact fun _ hmember => List.mem_singleton.mp hmember ▸ habout
      · rw [hasked, hwaiting]
        rfl
    · intro e
      exact failed_launches e hshows rfl (abandons_unbound scene system _)
  · have hanalysis := Shape.not_compiling_of_first hstage
    rw [hstage] at hnext
    unfold dispatchFirst
    rw [hnext]
    dsimp only
    rw [through_bind, through_attempt]
    refine dispatchAnalysis_launches hshows hmatched hfresh.snapshot hwaiting ?_ ?_ ?_
    · intro done final after kind snapshot hafter hkind htimeless hrequested
      have hlaunched : scene.Launched before final after :=
        .asked kind snapshot hkind htimeless hrequested
      have hgiven := hlaunched.akin.given
      obtain ⟨other, bound, source, hother, _, hwaits⟩ := hrequested
      refine ⟨after, hafter, Or.inr hlaunched, .asked (congrArg Scene.workflow htimeless :)
        ⟨_, ?_, fun request hmember => ?_, hwaits⟩⟩
      · rw [Workflow.shape_of_given hgiven] at hother
        exact Shape.queues_of_kind hanalysis hother _
      · exact (analysisRequests_about hmember).trans (Workflow.id_of_given hgiven)
    · intro done final after hafter htimeless hquiet
      exact ⟨after, hafter, Or.inr (.givenUp htimeless),
        .givenUp (congrArg Scene.workflow htimeless :) (hquiet.trans hbroker)⟩
    · intro e final met hmet hworkflow habandons
      unfold Rest
      dsimp only
      exact failed_launches e hmet hworkflow habandons

end Orchestrator

end ScanFlow
