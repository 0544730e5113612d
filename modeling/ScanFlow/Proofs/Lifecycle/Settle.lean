import ScanFlow.Proofs.Lifecycle.Dispatch

/-!
What settling does after an engine run has ended.

Settling advances the workflow, then merges and ends it as far as the engine runs allow.
For an analysis that was dispatched this leads to the next phase. If an engine answers
before the compiler has, settling tries to dispatch an analysis that has nothing to
analyse, and the workflow is aborted.
-/

namespace ScanFlow

/-- What a merge leaves alone. -/
def Task.course (task : Task) :
    Uuid × Option Task.Kind × Option String × Option TemplateSnapshot × SaRun × MlRun :=
  (task.id, task.kind, task.targetKey, task.snapshot, task.sa, task.ml)

theorem Task.withClaim?_course {task next : Task} {summary : Summary} {count : Nat}
    {now : Timestamp} (h : task.withClaim? summary count now = some next) :
    next.course = task.course := by
  rw [(Task.withClaim?_eq_some h).2.2]
  rfl

def Workflow.stepped (workflow : Workflow) (moment : Timestamp) : Workflow :=
  { workflow with
    progress := workflow.progress + 1
    timeline := workflow.timeline ++ [moment]
    updatedAt := moment }

theorem Workflow.advanced?_eq_stepped {workflow : Workflow}
    (hrunning : workflow.status = .running) (hless : workflow.progress < workflow.steps)
    (moment : Timestamp) : workflow.advanced? moment = some (workflow.stepped moment) := by
  have hleft : workflow.isFullyProgressed = false := by
    simpa [Workflow.isFullyProgressed] using hless
  simp [Workflow.advanced?, Workflow.isRunning, hrunning, hleft, Workflow.stepped]

namespace Orchestrator

open Program

variable {o : Orchestrator} {scene : Scene} {workflow : Workflow}

/-- The status that the engine runs of a task lead to, once they allow it. -/
def verdict? (task : Task) : Option Workflow.Status :=
  match task.kind with
  | some .sa => some (statusAfter task.sa.status)
  | some .ml => some (statusAfter task.ml.status)
  | some .saMl =>
    if task.bothSucceeded then some .complete
    else if task.bothTerminal then some .aborted
    else none
  | none => none

theorem advance_only {allowed : {β : Type} → Call β → Prop} (workflow : Workflow)
    (hclock : allowed .clock) (hadvance : ∀ moment, allowed (.store (.advance workflow.id moment)))
    (hfind : allowed (.store (.findWorkflow workflow.id))) : (advance workflow).Only allowed := by
  unfold advance
  split
  · trivial
  · refine only_bind (only_ask hclock) fun moment => ?_
    refine only_bind (only_ask (hadvance moment)) fun advanced => ?_
    cases advanced with
    | some advanced => trivial
    | none => exact only_bind (only_ask hfind) fun _ => trivial

theorem loadReports_only {allowed : {β : Type} → Call β → Prop} (task : Task)
    (hreports : ∀ id, allowed (.store (.groupReports id))) : (loadReports task).Only allowed :=
  only_bind (only_ask (hreports _)) fun _ => trivial

theorem conclude_only {allowed : {β : Type} → Call β → Prop} (workflow : Workflow) (task : Task)
    (hreports : ∀ id, allowed (.store (.groupReports id))) (hclock : allowed .clock)
    (hclaim : ∀ summary count, allowed (.store (.claimMerge task.id summary count)))
    (hfinish : ∀ status, allowed (.store (.finish workflow.id status))) :
    (o.conclude workflow task).Only allowed := by
  have hends : ∀ status, (Program.finish workflow.id status).Only allowed :=
    fun status => only_bind (only_ask (hfinish status)) fun _ => trivial
  unfold conclude
  split
  · exact hends _
  · exact hends _
  · split
    · refine only_bind ?_ fun _ => hends _
      unfold mergeOnce
      split
      · trivial
      · apply only_bind (loadReports_only task hreports)
        intro reports
        split
        · trivial
        · exact only_bind (only_ask hclock) fun _ => only_ask (hclaim _ _)
    · split
      · exact hends _
      · trivial
  · trivial

def Concluded (scene reached : Scene) : Prop :=
  match verdict? scene.task with
  | none => reached = scene
  | some status =>
    reached.task.course = scene.task.course ∧
      (status = .aborted → reached.task = scene.task) ∧
        ∃ now, reached.workflow = (scene.workflow.finished? status now).getD scene.workflow

theorem loadReports_alone (task : Task)
    {post : Except ServiceError (List GroupReport) → Unit → Scene → Prop}
    (h : ∀ reports, post (.ok reports) () scene) :
    (loadReports task).Keeps alone () scene post := by
  rw [loadReports, keeps_bind]
  refine alone_store trivial ?_
  intro _ reports _
  exact h _

theorem mergeOnce_alone :
    (o.mergeOnce scene.task).Keeps alone () scene fun outcome _ reached =>
      (∃ merged, outcome = .ok merged) ∧ reached.workflow = scene.workflow ∧
        reached.task.course = scene.task.course := by
  unfold mergeOnce
  split
  · exact ⟨⟨_, rfl⟩, rfl, rfl⟩
  · rw [keeps_bind]
    apply loadReports_alone _
    intro reports
    unfold Follows
    dsimp only
    split
    · exact ⟨⟨_, rfl⟩, rfl, rfl⟩
    · rw [keeps_bind]
      apply alone_clock
      intro now
      apply alone_claimMerge rfl
      intro moment
      refine ⟨⟨_, rfl⟩, rfl, ?_⟩
      exact Store.Operation.getD_keeps Task.course fun next hnext =>
        Task.withClaim?_course hnext

theorem conclude_alone (scene : Scene) (hid : workflow.id = scene.workflow.id) :
    (o.conclude workflow scene.task).Keeps alone () scene fun outcome _ reached =>
      outcome = .ok () ∧ Concluded scene reached := by
  have hfinish : ∀ (status : Workflow.Status) (met : Scene),
      verdict? scene.task = some status → met.workflow = scene.workflow →
      met.task.course = scene.task.course → (status = .aborted → met.task = scene.task) →
      (Program.finish workflow.id status).Keeps alone () met fun outcome _ reached =>
        outcome = .ok () ∧ Concluded scene reached := by
    intro status met hverdict hworkflow htask hsame
    apply alone_finish (hworkflow ▸ hid)
    intro now
    refine ⟨rfl, ?_⟩
    rw [Concluded, hverdict]
    exact ⟨htask, hsame, now, by rw [hworkflow]⟩
  unfold conclude
  split
  · rename_i hkind
    exact hfinish _ scene (by rw [verdict?, hkind]) rfl rfl fun _ => rfl
  · rename_i hkind
    exact hfinish _ scene (by rw [verdict?, hkind]) rfl rfl fun _ => rfl
  · rename_i hkind
    split
    · rename_i hboth
      rw [keeps_bind]
      apply keeps_mono mergeOnce_alone
      rintro outcome _ met ⟨⟨merged, rfl⟩, hworkflow, htask⟩
      exact hfinish _ met (by simp [verdict?, hkind, hboth]) hworkflow htask nofun
    · rename_i hboth
      split
      · rename_i hterminal
        exact hfinish _ scene (by simp [verdict?, hkind, hboth, hterminal]) rfl rfl fun _ => rfl
      · rename_i hterminal
        refine ⟨rfl, ?_⟩
        simp [Concluded, verdict?, hkind, hboth, hterminal]
  · rename_i hkind
    refine ⟨rfl, ?_⟩
    simp [Concluded, verdict?, hkind]

theorem advance_alone {post : Except ServiceError Workflow → Unit → Scene → Prop}
    (hstay : scene.workflow.status ≠ .running ∨ scene.workflow.steps ≤ scene.workflow.progress →
      post (.ok scene.workflow) () scene)
    (hstep : scene.workflow.status = .running →
      scene.workflow.progress < scene.workflow.steps →
        ∀ moment, post (.ok (scene.workflow.stepped moment)) ()
          { scene with workflow := scene.workflow.stepped moment }) :
    (advance scene.workflow).Keeps alone () scene post := by
  unfold advance
  split
  · rename_i hguard
    apply hstay
    simpa [Workflow.isRunning, Workflow.isFullyProgressed] using hguard
  · rename_i hguard
    have hmay : scene.workflow.status = .running ∧
        scene.workflow.progress < scene.workflow.steps := by
      simpa [Workflow.isRunning, Workflow.isFullyProgressed] using hguard
    rw [keeps_bind]
    apply alone_clock
    intro moment
    change Keeps _ (_ >>= _) _ _ _
    rw [keeps_bind]
    apply alone_advance rfl
    rw [Workflow.advanced?_eq_stepped hmay.1 hmay.2]
    exact hstep hmay.1 hmay.2 moment

/-- Concluding with the task as it is stored, and going on. -/
theorem concludeStored_alone {post : Except ServiceError Unit → Unit → Scene → Prop}
    (current : Workflow)
    (h : ∀ reached, Concluded { scene with workflow := current } reached →
      (if current.isFullyProgressed then pure () else o.chain current).Keeps alone () reached
        post) :
    (Program.store (.findTask scene.task.id) >>= fun found =>
      match found with
      | none => pure ()
      | some task => do
        o.conclude current task
        if current.isFullyProgressed then pure () else o.chain current).Keeps alone ()
          { scene with workflow := current } post := by
  rw [keeps_bind]
  apply alone_findTask rfl
  unfold Follows
  dsimp only
  rw [keeps_bind]
  apply keeps_mono (conclude_alone { scene with workflow := current } rfl)
  rintro outcome _ reached ⟨rfl, hconcluded⟩
  exact h reached hconcluded

/-- Settling, by what the advanced workflow leads to. -/
theorem settle_alone {post : Except ServiceError Unit → Unit → Scene → Prop}
    (h : ∀ current : Workflow,
      (current = scene.workflow ∧ (scene.workflow.status ≠ .running ∨
          scene.workflow.steps ≤ scene.workflow.progress) ∨
        scene.workflow.status = .running ∧ scene.workflow.progress < scene.workflow.steps ∧
          ∃ moment, current = scene.workflow.stepped moment) →
      ∀ reached, Concluded { scene with workflow := current } reached →
        (if current.isFullyProgressed then pure () else o.chain current).Keeps alone () reached
          post) :
    (o.settle scene.workflow scene.task.id).Keeps alone () scene post := by
  unfold settle
  rw [keeps_bind]
  apply advance_alone
  · intro hstay
    exact concludeStored_alone scene.workflow (h _ (Or.inl ⟨rfl, hstay⟩))
  · intro hrunning hless moment
    exact concludeStored_alone _ (h _ (Or.inr ⟨hrunning, hless, moment, rfl⟩))

/-! ### After the analysis has been dispatched -/

/-- A verdict of completion means that every engine run of the shape has succeeded. -/
theorem verdict_complete {shape : Shape} {task : Task} (hkind : task.kind = shape.taskKind?)
    (h : verdict? task = some .complete) : Succeeded shape task := by
  unfold verdict? at h
  rw [hkind] at h
  cases shape with
  | compile => cases h
  | compileSa | sa =>
    simp only [Shape.taskKind?, Shape.runsSa, Shape.runsMl, statusAfter] at h
    split at h
    · rename_i hsa
      exact ⟨fun _ => hsa, nofun⟩
    · cases h
  | ml =>
    simp only [Shape.taskKind?, Shape.runsSa, Shape.runsMl, statusAfter] at h
    split at h
    · rename_i hml
      exact ⟨nofun, fun _ => hml⟩
    · cases h
  | compileSaMl | saMl =>
    simp only [Shape.taskKind?, Shape.runsSa, Shape.runsMl] at h
    split at h
    · rename_i hboth
      simp only [Task.bothSucceeded, Bool.and_eq_true, decide_eq_true_eq] at hboth
      exact ⟨fun _ => hboth.1, fun _ => hboth.2⟩
    · split at h
      · cases h
      · cases h

theorem verdict_not_running (task : Task) : verdict? task ≠ some .running := by
  unfold verdict? statusAfter
  cases task.kind with
  | none => simp
  | some kind =>
    cases kind with
    | sa | ml =>
      dsimp only
      split <;> simp
    | saMl =>
      dsimp only
      split
      · simp
      · split <;> simp

/-- Without a verdict, one engine has answered and another is awaited. -/
theorem verdict_none {shape : Shape} {task : Task} (hkind : task.kind = shape.taskKind?)
    (hended : someEnded shape task = true) (h : verdict? task = none) :
    someAwaited shape task = true := by
  unfold verdict? at h
  rw [hkind] at h
  cases shape with
  | compile => cases hended
  | compileSa | sa | ml => cases h
  | compileSaMl | saMl =>
    simp only [Shape.taskKind?, Shape.runsSa, Shape.runsMl] at h
    split at h
    · cases h
    · split at h
      · cases h
      · rename_i hterminal
        simp only [Task.bothTerminal, Bool.not_eq_true, Bool.and_eq_false_iff] at hterminal
        simpa [someAwaited, Shape.runsSa, Shape.runsMl] using hterminal

theorem Concluded.phase {reached : Scene} (hconcluded : Concluded scene reached)
    (hmatched : Matched scene.workflow scene.task)
    (hrunning : scene.workflow.status = .running)
    (hprogress : scene.workflow.progress = scene.workflow.steps)
    (hdispatched : Dispatched scene.workflow.shape scene.task)
    (hended : someEnded scene.workflow.shape scene.task = true) :
    reached.task.kind = scene.task.kind ∧ Phase reached.workflow reached.task := by
  cases hverdict : verdict? scene.task with
  | none =>
    rw [Concluded, hverdict] at hconcluded
    rw [hconcluded]
    refine ⟨rfl, .analysing ⟨hrunning, hdispatched, ?_, ?_⟩⟩
    · exact verdict_none hmatched.kind hended hverdict
    · simp [hended, hprogress]
  | some status =>
    rw [Concluded, hverdict] at hconcluded
    obtain ⟨hcourse, _, now, hworkflow⟩ := hconcluded
    simp only [Task.course, Prod.mk.injEq] at hcourse
    obtain ⟨_, hkind, htarget, _, hsa, hml⟩ := hcourse
    refine ⟨hkind, ?_⟩
    cases status with
    | running => exact absurd hverdict (verdict_not_running scene.task)
    | aborted =>
      refine .aborted ?_
      rw [hworkflow, Workflow.finished?, hrunning]
      rfl
    | complete =>
      have hsucceeded := verdict_complete hmatched.kind hverdict
      have hended : reached.workflow =
          { scene.workflow with status := .complete, updatedAt := now } := by
        rw [hworkflow, Workflow.finished?, hrunning]
        rfl
      refine .completed ⟨?_, ?_, ?_, ?_⟩
      · rw [hended]
      · rw [hended]
        exact hprogress
      · rw [htarget]
        exact hdispatched.target
      · rw [hended]
        refine ⟨?_, ?_⟩
        · rw [hsa]
          exact hsucceeded.sa
        · rw [hml]
          exact hsucceeded.ml

theorem settle_dispatched (hmatched : Matched scene.workflow scene.task)
    (hrunning : scene.workflow.status = .running)
    (hprogress : scene.workflow.progress + 1 = scene.workflow.steps ∨
      scene.workflow.progress = scene.workflow.steps)
    (hdispatched : Dispatched scene.workflow.shape scene.task)
    (hended : someEnded scene.workflow.shape scene.task = true) :
    (o.settle scene.workflow scene.task.id).Keeps alone () scene fun _ _ reached =>
      reached.task.kind = scene.task.kind ∧ Phase reached.workflow reached.task := by
  apply settle_alone
  intro current hcurrent reached hconcluded
  -- In either case the advanced workflow has done all its stages.
  have hdone : current.status = .running ∧ current.progress = current.steps ∧
      current.shape = scene.workflow.shape ∧ current.steps = scene.workflow.steps := by
    rcases hcurrent with ⟨rfl, hstay⟩ | ⟨_, hless, moment, rfl⟩
    · refine ⟨hrunning, ?_, rfl, rfl⟩
      rcases hstay with hended | hfull
      · exact absurd hrunning hended
      · omega
    · refine ⟨hrunning, ?_, rfl, rfl⟩
      change scene.workflow.progress + 1 = scene.workflow.steps
      omega
  obtain ⟨hcurrentRunning, hcurrentProgress, hshape, hsteps⟩ := hdone
  rw [if_pos (by simp [Workflow.isFullyProgressed, hcurrentProgress])]
  refine hconcluded.phase ⟨?_, ?_⟩ hcurrentRunning hcurrentProgress ?_ ?_
  · rw [hsteps, hmatched.steps, hshape]
  · rw [hmatched.kind, hshape]
  · rw [hshape]
    exact hdispatched
  · rw [hshape]
    exact hended

/-! ### Before the analysis has been dispatched, and after the end -/

/-- A shape that compiles and then runs an engine has two stages. -/
theorem two_stages {shape : Shape} (hcompile : shape.runsCompile = true)
    (hkind : shape.taskKind? ≠ none) : shape.stages = [.compile, .analysis] := by
  revert hcompile hkind
  cases shape <;> simp [Shape.runsCompile, Shape.stages, Shape.taskKind?, Shape.runsSa,
    Shape.runsMl]

/-- Without a run that has succeeded, no verdict completes the workflow. -/
theorem verdict_not_complete {shape : Shape} {task : Task} (hkind : task.kind = shape.taskKind?)
    (hanalyses : task.kind ≠ none) (hsa : task.sa.status ≠ .success)
    (hml : task.ml.status ≠ .success) : verdict? task ≠ some .complete := by
  intro hverdict
  have hsucceeded := verdict_complete hkind hverdict
  cases hruns : shape.runsSa with
  | true => exact hsa (hsucceeded.sa hruns)
  | false =>
    have hrunsMl : shape.runsMl = true := by
      rw [hkind, Shape.taskKind?, hruns] at hanalyses
      cases hrunsMl : shape.runsMl with
      | true => rfl
      | false => simp [hrunsMl] at hanalyses
    exact hml (hsucceeded.ml hrunsMl)

/-- Concluding that does not complete the workflow waits or aborts, and leaves the task alone. -/
theorem Concluded.unsuccessful {reached : Scene} (hconcluded : Concluded scene reached)
    (hrunning : scene.workflow.status = .running)
    (hincomplete : verdict? scene.task ≠ some .complete) :
    reached.task = scene.task ∧ reached.workflow.fixed = scene.workflow.fixed ∧
      reached.workflow.status ≠ .complete := by
  cases hverdict : verdict? scene.task with
  | none =>
    rw [Concluded, hverdict] at hconcluded
    rw [hconcluded]
    exact ⟨rfl, rfl, by simp [hrunning]⟩
  | some status =>
    rw [Concluded, hverdict] at hconcluded
    obtain ⟨_, hsame, now, hworkflow⟩ := hconcluded
    cases status with
    | running => exact absurd hverdict (verdict_not_running scene.task)
    | complete => exact absurd hverdict hincomplete
    | aborted =>
      have haborted : reached.workflow = abortedAt now scene.workflow := hworkflow
      refine ⟨hsame rfl, ?_, ?_⟩
      · rw [haborted, abortedAt_fixed]
      · rw [haborted, abortedAt_status (by simp [hrunning])]
        simp

theorem settle_premature (hlinked : scene.workflow.taskId = scene.task.id)
    (hmatched : Matched scene.workflow scene.task)
    (hrunning : scene.workflow.status = .running) (hprogress : scene.workflow.progress = 0)
    (hshape : scene.workflow.shape.runsCompile = true) (hkind : scene.task.kind ≠ none)
    (hsnapshot : scene.task.snapshot = none) (htarget : scene.task.targetKey = none)
    (hclaim : scene.task.mergeClaimed = false) (hsa : scene.task.sa.status ≠ .success)
    (hml : scene.task.ml.status ≠ .success) :
    (o.settle scene.workflow scene.task.id).Keeps alone () scene fun _ _ reached =>
      reached.task.kind = scene.task.kind ∧ reached.workflow.status = .aborted := by
  have hstages := two_stages hshape (hmatched.kind ▸ hkind)
  have hsteps : scene.workflow.steps = 2 := by
    rw [hmatched.steps, Shape.steps, hstages]
    rfl
  apply settle_alone
  intro current hcurrent reached hconcluded
  rcases hcurrent with ⟨_, hstay⟩ | ⟨_, _, moment, rfl⟩
  · rcases hstay with hended | hfull
    · exact absurd hrunning hended
    · omega
  obtain ⟨htask, hfixed, hopen⟩ := hconcluded.unsuccessful hrunning
    (verdict_not_complete hmatched.kind hkind hsa hml)
  have hid := Workflow.id_of_fixed hfixed
  have hsameShape := Workflow.shape_of_fixed hfixed
  have hleft : (scene.workflow.stepped moment).isFullyProgressed = false := by
    simp [Workflow.isFullyProgressed, Workflow.stepped, hprogress, hsteps]
  rw [if_neg (by simp [hleft])]
  refine keeps_mono (chain_alone reached ⟨?_, ?_, ?_⟩ ?_ ?_ ?_ ?_ ?_) ?_
  · exact hid.symm
  · rw [htask]
    exact hlinked
  · exact hsameShape.symm
  · exact hrunning
  · rw [Workflow.nextStage?, if_neg (by simp [hleft])]
    simp [Workflow.stepped, hprogress, Shape.stageAt?, hstages]
  · rw [htask, hmatched.kind, hsameShape]
    rfl
  · rw [htask, hsnapshot]
  · rw [htask, hclaim]
  · rintro _ _ final ⟨hfinalKind, hends | ⟨_, hbound, _⟩⟩
    · obtain ⟨now, hends⟩ := hends
      refine ⟨?_, ?_⟩
      · rw [hfinalKind, htask]
      · rw [hends, abortedAt_status hopen]
    · rw [htask, htarget] at hbound
      cases hbound

theorem settle_aborted (haborted : scene.workflow.status = .aborted) :
    (o.settle scene.workflow scene.task.id).Keeps alone () scene fun _ _ reached =>
      reached.task.kind = scene.task.kind ∧ reached.workflow.status = .aborted := by
  apply settle_alone
  intro current hcurrent reached hconcluded
  rcases hcurrent with ⟨rfl, _⟩ | ⟨hrunning, _⟩
  · have hends : reached.task.kind = scene.task.kind ∧ reached.workflow.status = .aborted := by
      cases hverdict : verdict? scene.task with
      | none =>
        rw [Concluded, hverdict] at hconcluded
        rw [hconcluded]
        exact ⟨rfl, haborted⟩
      | some status =>
        rw [Concluded, hverdict] at hconcluded
        obtain ⟨hcourse, _, now, hworkflow⟩ := hconcluded
        simp only [Task.course, Prod.mk.injEq] at hcourse
        refine ⟨hcourse.2.1, ?_⟩
        rw [hworkflow, Workflow.finished?, haborted]
        exact haborted
    split
    · exact hends
    · unfold chain
      rw [if_pos (by simp [Workflow.isRunning, haborted])]
      exact hends
  · rw [haborted] at hrunning
    cases hrunning

end Orchestrator

end ScanFlow
