import ScanFlow.Proofs.Recovery.Ended

/-!
Messages that are processed once more.

A message is expected while the workflow waits for its compiler, or while the run that it
reports on may still become what it reports. Processing a message that is expected uses it
up: the compile stage is over, or the run has ended, and no service takes that back. A message
that is not expected changes no record and no queue. If its run has ended before, the workflow
is settled again, but a workflow that still runs then waits for its other engine, and a
settlement finds nothing to do.
-/

namespace ScanFlow

theorem Reaches.trans {o : Orchestrator} {start system later : System}
    (hfirst : Reaches o start system) (hsecond : Reaches o system later) :
    Reaches o start later := by
  induction hsecond with
  | refl => exact hfirst
  | step _ hservice ih => exact .step ih hservice

namespace System

open Orchestrator

/-- The two systems hold the same records and the same messages. Numbers may have been taken
between them. -/
structure SameAs (system other : System) : Prop where
  store : system.store = other.store
  broker : system.broker = other.broker

theorem SameAs.refl (system : System) : system.SameAs system := ⟨rfl, rfl⟩

def Expects (system : System) : Completion → Prop
  | .compile answer => system.AtCompileStage answer.workflowId
  | .sa answer => ∃ workflow task,
      system.store.workflows.get? answer.workflowId = some workflow ∧
      system.store.tasks.get? answer.taskId = some task ∧ workflow.taskId = task.id ∧
      task.runsSa = true ∧ task.sa.status.canBecome (.ofSuccess answer.success) = true
  | .ml answer => ∃ workflow task,
      system.store.workflows.get? answer.workflowId = some workflow ∧
      system.store.tasks.get? answer.taskId = some task ∧ workflow.taskId = task.id ∧
      task.runsMl = true ∧ task.ml.status.canBecome (.ofSuccess answer.success) = true

def Spent (system : System) : Completion → Prop
  | .compile answer => system.Past answer.workflowId
  | .sa answer => system.Ended (.sa answer) answer.taskId
  | .ml answer => system.Ended (.ml answer) answer.taskId

variable {o : Orchestrator} {system next : System} {message : Completion} {id : Uuid}

theorem SameAs.expects (hsame : next.SameAs system) :
    next.Expects message ↔ system.Expects message := by
  cases message <;> simp only [Expects, AtCompileStage, hsame.store]

/-! ### What has been used up stays used up -/

theorem Past.service (hpast : system.Past id) (hservice : Service o system next) :
    next.Past id := by
  cases hservice with
  | registerCode _ hruns => exact (past_preserves _).runs hruns hpast
  | start _ hruns => exact (past_preserves _).runs hruns hpast
  | process _ hruns => exact (past_preserves _).runs hruns hpast
  | remerge _ hruns => exact (past_preserves _).runs hruns hpast
  | audit _ _ _ hruns => exact (past_preserves _).runs hruns hpast
  | putRule rule =>
    obtain ⟨scene, hshows, hid, hpast⟩ := hpast
    exact ⟨scene, { hshows with keyed := hshows.keyed.putRule rule }, hid, hpast⟩
  | putTemplate template =>
    obtain ⟨scene, hshows, hid, hpast⟩ := hpast
    exact ⟨scene, { hshows with keyed := hshows.keyed.putTemplate template }, hid, hpast⟩

theorem Spent.reaches (hspent : system.Spent message) (hreach : Reaches o system next) :
    next.Spent message := by
  induction hreach with
  | refl => exact hspent
  | step _ hservice ih =>
    cases message with
    | compile answer => exact Past.service ih hservice
    | sa answer => exact Ended.service ih hservice
    | ml answer => exact Ended.service ih hservice

/-- A run that has ended becomes nothing else, so its end is not expected again. -/
theorem Spent.unexpected (hspent : system.Spent message) : ¬ system.Expects message := by
  cases message with
  | compile answer => exact Past.not_atCompileStage hspent
  | sa answer =>
    rintro ⟨_, task, _, htask, _, _, hmay⟩
    obtain ⟨_, found, hfound, hended⟩ := hspent
    rw [htask, Option.some.injEq] at hfound
    subst hfound
    have hterminal : task.sa.status.isTerminal = true := hended
    rw [RunStatus.open_of_canBecome hmay] at hterminal
    cases hterminal
  | ml answer =>
    rintro ⟨_, task, _, htask, _, _, hmay⟩
    obtain ⟨_, found, hfound, hended⟩ := hspent
    rw [htask, Option.some.injEq] at hfound
    subst hfound
    have hterminal : task.ml.status.isTerminal = true := hended
    rw [RunStatus.open_of_canBecome hmay] at hterminal
    cases hterminal

end System

theorem SaRun.finished_refused {run : SaRun} {succeeded : Bool} (resultIds : List Uuid)
    (weaknessCount : Nat) (moment : Timestamp)
    (hclosed : run.status.canBecome (.ofSuccess succeeded) = false) :
    ∃ e, run.finished succeeded resultIds weaknessCount moment = .error e := by
  rw [SaRun.finished, RunStatus.become, hclosed]
  exact ⟨_, rfl⟩

theorem MlRun.finished_refused {run : MlRun} {succeeded : Bool} (rawResult : Option MlReport)
    (moment : Timestamp) (hclosed : run.status.canBecome (.ofSuccess succeeded) = false) :
    ∃ e, run.finished succeeded rawResult moment = .error e := by
  rw [MlRun.finished, RunStatus.become, hclosed]
  exact ⟨_, rfl⟩

theorem SaRun.finished_accepted {run : SaRun} {succeeded : Bool} (resultIds : List Uuid)
    (weaknessCount : Nat) (moment : Timestamp)
    (hmay : run.status.canBecome (.ofSuccess succeeded) = true) :
    ∃ next, run.finished succeeded resultIds weaknessCount moment = .ok next ∧
      next.status.isTerminal = true := by
  rw [SaRun.finished, RunStatus.become, hmay]
  exact ⟨_, rfl, Orchestrator.isTerminal_of_ended rfl⟩

theorem MlRun.finished_accepted {run : MlRun} {succeeded : Bool} (rawResult : Option MlReport)
    (moment : Timestamp) (hmay : run.status.canBecome (.ofSuccess succeeded) = true) :
    ∃ next, run.finished succeeded rawResult moment = .ok next ∧
      next.status.isTerminal = true := by
  rw [MlRun.finished, RunStatus.become, hmay]
  exact ⟨_, rfl, Orchestrator.isTerminal_of_ended rfl⟩

namespace Orchestrator

open Program

variable {o : Orchestrator} {system : System} {scene : Scene} {workflow : Workflow} {task : Task}

theorem resolve_reads {point : System → Prop}
    {post : Except ServiceError (Option (Workflow × Task)) → System → Prop}
    {workflowId taskId : Uuid} (hpoint : point system) (hnone : post (.ok none) system)
    (hsome : ∀ workflow task, system.store.workflows.get? workflowId = some workflow →
      system.store.tasks.get? taskId = some task → workflow.taskId = task.id →
        post (.ok (some (workflow, task))) system) :
    (resolve workflowId taskId).Through point system post := by
  unfold resolve
  rw [through_bind]
  refine through_read (fun _ _ => rfl) hpoint ?_
  intro now
  rw [Store.Operation.perform]
  cases hworkflow : system.store.workflows.get? workflowId with
  | none => exact hnone
  | some workflow =>
    unfold Rest
    dsimp only
    rw [through_bind]
    refine through_read (fun _ _ => rfl) hpoint ?_
    intro now
    rw [Store.Operation.perform]
    cases htask : system.store.tasks.get? taskId with
    | none => exact hnone
    | some task =>
      change post (.ok (if workflow.taskId = task.id then some (workflow, task) else none)) system
      split
      · rename_i hlinked
        exact hsome workflow task hworkflow htask hlinked
      · exact hnone

/-! ### Messages that are not expected -/

/-- Where one engine has answered and another is awaited, both were asked. -/
theorem half_answered {shape : Shape} (hkind : task.kind = shape.taskKind?)
    (hended : someEnded shape task = true) (hawaited : someAwaited shape task = true) :
    task.kind = some .saMl ∧ task.bothTerminal = false := by
  cases shape with
  | compile => cases hended
  | compileSa | sa | ml =>
    simp only [someEnded, someAwaited, Shape.runsSa, Shape.runsMl, Bool.true_and, Bool.false_and,
      Bool.or_false, Bool.false_or, Bool.not_eq_true'] at hended hawaited
    rw [hended] at hawaited
    cases hawaited
  | compileSaMl | saMl =>
    refine ⟨hkind, ?_⟩
    simp only [someAwaited, Shape.runsSa, Shape.runsMl, Bool.true_and] at hawaited
    rw [Task.bothTerminal, ← Bool.not_eq_true, Bool.and_eq_true]
    rintro ⟨hsa, hml⟩
    rw [hsa, hml] at hawaited
    cases hawaited

/-- Settling again, while the other engine is awaited, only reads. -/
theorem settle_half (hfull : workflow.isFullyProgressed = true) (hkind : task.kind = some .saMl)
    (hopen : task.bothTerminal = false)
    (hstored : system.store.tasks.get? task.id = some task) :
    (o.settle workflow task.id).Through (fun _ => True) system fun _ final => final = system := by
  have hnot : task.bothSucceeded = false := by
    rw [← Bool.not_eq_true]
    intro hboth
    simp only [Task.bothSucceeded, Bool.and_eq_true, decide_eq_true_eq] at hboth
    rw [Task.bothTerminal, hboth.1, hboth.2] at hopen
    cases hopen
  have hconclude : o.conclude workflow task = pure () := by
    unfold conclude
    rw [hkind]
    dsimp only
    rw [if_neg (by simp [hnot]), if_neg (by simp [hopen])]
  have hadvance : advance workflow = pure workflow := by
    unfold advance
    rw [if_pos (by simp [hfull])]
  unfold settle
  rw [hadvance]
  change Through _ (Program.store (.findTask task.id) >>= _) _ _
  rw [through_bind]
  refine through_read (fun _ _ => rfl) trivial ?_
  intro now
  rw [Store.Operation.perform, hstored]
  unfold Rest
  dsimp only
  rw [hconclude, hfull]
  rfl

theorem resettle_unexpected (hshows : system.Shows scene)
    (hmatched : Matched scene.workflow scene.task) (hphase : Phase scene.workflow scene.task)
    (hended : someEnded scene.workflow.shape scene.task = true) :
    (o.resettle scene.workflow scene.task).Through (fun _ => True) system
      fun _ final => final = system := by
  unfold resettle
  split
  · rename_i hrunning
    rw [Workflow.isRunning_iff] at hrunning
    cases hphase with
    | compiling h => simp [someEnded, h.sa, h.ml, RunStatus.isTerminal] at hended
    | analysing h =>
      obtain ⟨hkind, hopen⟩ := half_answered hmatched.kind hended h.awaited
      have hprogress := h.progress
      rw [if_pos hended] at hprogress
      have hfull : scene.workflow.isFullyProgressed = true := by
        rw [Workflow.isFullyProgressed_iff]
        omega
      exact settle_half hfull hkind hopen hshows.task
    | completed h => cases h.complete.symm.trans hrunning
    | aborted h => cases h.symm.trans hrunning
  · rfl

theorem acceptFindings_unexpected {answer : SaFinished}
    (hclosed : task.sa.status.canBecome (.ofSuccess answer.success) = false) :
    (o.acceptFindings workflow task answer).Through (fun _ => True) system
      fun _ final => final.SameAs system := by
  unfold acceptFindings
  dsimp only
  rw [through_bind]
  intro env
  refine ⟨trivial, ?_⟩
  change Through _ (_ >>= _) _ _
  rw [through_bind]
  apply through_clock trivial
  intro moment
  unfold Rest
  dsimp only
  obtain ⟨e, hrefused⟩ := SaRun.finished_refused _ _ moment hclosed
  rw [hrefused]
  exact ⟨rfl, rfl⟩

theorem onCompileFinished_unexpected {answer : CompileFinished}
    (hunexpected : ¬ system.AtCompileStage answer.workflowId) :
    (o.onCompileFinished answer).Through (fun _ => True) system
      fun _ final => final.SameAs system := by
  unfold onCompileFinished
  rw [through_bind]
  refine through_read (fun _ _ => rfl) trivial ?_
  intro now
  rw [Store.Operation.perform]
  cases hstored : system.store.workflows.get? answer.workflowId with
  | none => exact .refl system
  | some workflow =>
    have hguard : (!workflow.isRunning || workflow.nextStage? ≠ some .compile) = true := by
      rw [← Bool.not_eq_false]
      intro hopen
      simp only [ne_eq, Bool.or_eq_false_iff, Bool.not_eq_false', decide_eq_false_iff_not,
        Decidable.not_not] at hopen
      exact hunexpected ⟨workflow, hstored, Workflow.isRunning_iff.mp hopen.1, hopen.2⟩
    unfold Rest
    dsimp only
    rw [if_pos hguard]
    exact .refl system

theorem onSaFinished_unexpected (hsound : system.Sound) {answer : SaFinished}
    (hunexpected : ¬ system.Expects (.sa answer)) :
    (o.onSaFinished answer).Through (fun _ => True) system
      fun _ final => final.SameAs system := by
  unfold onSaFinished
  rw [through_bind]
  refine resolve_reads trivial (.refl system) ?_
  intro workflow task hworkflow htask hlinked
  unfold Rest
  dsimp only
  split
  · exact .refl system
  rename_i hguard
  have hruns : task.runsSa = true := by simpa using hguard
  split
  · rename_i hterminal
    obtain ⟨scene, rfl, rfl, _, _, hshows, hmatched, hphase⟩ :=
      hsound.scene_pair hworkflow htask hlinked
    refine (resettle_unexpected hshows hmatched hphase ?_).mono (fun _ => id) ?_
    · simp [someEnded, ← hmatched.runsSa, hruns, hterminal]
    · rintro _ _ rfl
      exact .refl _
  · apply acceptFindings_unexpected
    rw [← Bool.not_eq_true]
    exact fun hmay => hunexpected ⟨workflow, task, hworkflow, htask, hlinked, hruns, hmay⟩

/-- This answer takes no numbers either. -/
theorem onMlFinished_unexpected (hsound : system.Sound) {answer : MlFinished}
    (hunexpected : ¬ system.Expects (.ml answer)) :
    (o.onMlFinished answer).Through (fun _ => True) system fun _ final => final = system := by
  unfold onMlFinished
  rw [through_bind]
  refine resolve_reads trivial rfl ?_
  intro workflow task hworkflow htask hlinked
  unfold Rest
  dsimp only
  split
  · rfl
  rename_i hguard
  have hruns : task.runsMl = true := by simpa using hguard
  split
  · rename_i hterminal
    obtain ⟨scene, rfl, rfl, _, _, hshows, hmatched, hphase⟩ :=
      hsound.scene_pair hworkflow htask hlinked
    apply resettle_unexpected hshows hmatched hphase
    simp [someEnded, ← hmatched.runsMl, hruns, hterminal]
  · rw [through_bind]
    apply through_clock trivial
    intro moment
    have hclosed : task.ml.status.canBecome (.ofSuccess answer.success) = false := by
      rw [← Bool.not_eq_true]
      exact fun hmay => hunexpected ⟨workflow, task, hworkflow, htask, hlinked, hruns, hmay⟩
    obtain ⟨e, hrefused⟩ := MlRun.finished_refused
      (if answer.success = true then answer.result else none) moment hclosed
    unfold Rest
    dsimp only
    rw [hrefused]
    rfl

/-- A message that is not expected leaves all records and queues as they are. -/
theorem process_unexpected (hsound : system.Sound) {message : Completion}
    (hunexpected : ¬ system.Expects message) :
    (o.process message).Through (fun _ => True) system
      fun _ final => final.SameAs system := by
  cases message with
  | compile answer => exact onCompileFinished_unexpected hunexpected
  | sa answer => exact onSaFinished_unexpected hsound hunexpected
  | ml answer =>
    apply (onMlFinished_unexpected hsound hunexpected).mono fun _ => id
    rintro _ _ rfl
    exact .refl _

/-! ### Messages that are expected -/

theorem onCompileFinished_spent (hsound : system.Sound) {answer : CompileFinished} {queue : Queue}
    {body : Json} (haccepted : Completion.parse queue body = .ok (.compile answer))
    (hexpected : system.AtCompileStage answer.workflowId) :
    (o.onCompileFinished answer).Through (fun _ => True) system
      fun _ final => final.Past answer.workflowId := by
  obtain ⟨workflow, hstored, hrunning, hstage⟩ := hexpected
  have hid := hsound.keyed.workflows _ workflow hstored
  obtain ⟨scene, rfl, hshows, hmatched, hphase⟩ := hsound.scene hstored
  have hcompiling := compiling_of_stage hmatched hphase hrunning hstage
  rw [← hid]
  cases hsuccess : answer.success with
  | true =>
    obtain ⟨key, hkey⟩ := CompileFinished.key_of_accepted haccepted hsuccess
    have hopened : Opened scene key scene :=
      ⟨rfl, rfl, rfl, Or.inl hcompiling.target, hcompiling.snapshot, hcompiling.unclaimed⟩
    exact (onCompileFinished_through hmatched hcompiling hstage hshows hopened rfl hid.symm
      hsuccess hkey).mono (fun _ _ => trivial) fun _ _ hfinal => hfinal.2
  | false =>
    unfold onCompileFinished
    rw [through_bind]
    apply through_findWorkflow hshows trivial hid.symm
    unfold Rest
    dsimp only
    rw [if_neg (by simp [hstage, Workflow.isRunning, hrunning]), if_pos (by simp [hsuccess])]
    apply through_finish hshows rfl
    intro now next hnext _
    have hends : scene.workflow.finished? .aborted now =
        some { scene.workflow with status := .aborted, updatedAt := now } := by
      simp [Workflow.finished?, hrunning, Workflow.Status.canBecome]
    rw [hends, Option.getD_some] at hnext
    refine ⟨trivial, _, hnext, rfl, Or.inl ?_⟩
    intro hopen
    cases hopen

theorem endSa_spent {answer : SaFinished} {run : SaRun} (hshows : system.Shows scene)
    (hrun : run.status.isTerminal = true) (otherwise : Program Unit) :
    (o.endSa scene.workflow scene.task run otherwise).Through (fun _ => True) system
      fun _ final => final.Ended (.sa answer) scene.task.id := by
  apply through_endSa hshows rfl
  intro now next hnext
  have hended : next.Ended (.sa answer) scene.task.id := ⟨hnext.keyed, _, hnext.task, hrun⟩
  refine ⟨trivial, ?_⟩
  exact (settle_ended scene.workflow scene.task.id next hended).mono (fun _ _ => trivial)
    fun _ _ => id

theorem acceptFindings_spent {answer : SaFinished} (hshows : system.Shows scene)
    (hmay : scene.task.sa.status.canBecome (.ofSuccess answer.success) = true) :
    (o.acceptFindings scene.workflow scene.task answer).Through (fun _ => True) system
      fun _ final => final.Ended (.sa answer) scene.task.id := by
  unfold acceptFindings
  dsimp only
  rw [through_bind]
  apply through_reserve hshows
  intro next hnext _
  refine ⟨trivial, ?_⟩
  change Through _ (_ >>= _) _ _
  rw [through_bind]
  apply through_clock trivial
  intro moment
  obtain ⟨run, hfinished, hrun⟩ := SaRun.finished_accepted
    ((storedReports scene.task.id scene.nextNumber answer.rules).map fun report => report.group.id)
    (answer.rules.flatMap fun rule => rule.2.findings).length moment hmay
  unfold Rest
  dsimp only
  rw [hfinished]
  dsimp only
  split
  · rw [through_bind]
    apply through_storeOr hnext
    intro now done met hdone hmet _
    rw [hdone (ownReports_storedReports _ _ _)]
    exact ⟨trivial, endSa_spent hmet hrun _⟩
  · exact endSa_spent hnext hrun _

/-- A run that may end in the way that is reported ends. -/
theorem onSaFinished_ends (hshows : system.Shows scene) {answer : SaFinished}
    (hworkflow : answer.workflowId = scene.workflow.id) (htask : answer.taskId = scene.task.id)
    (hruns : scene.task.runsSa = true)
    (hmay : scene.task.sa.status.canBecome (.ofSuccess answer.success) = true) :
    (o.onSaFinished answer).Through (fun _ => True) system
      fun _ final => final.Ended (.sa answer) scene.task.id := by
  unfold onSaFinished
  rw [through_bind]
  apply resolve_through hshows trivial hworkflow htask
  unfold Rest
  dsimp only
  rw [if_neg (by simp [hruns]), if_neg (by simp [RunStatus.open_of_canBecome hmay])]
  exact acceptFindings_spent hshows hmay

theorem onSaFinished_spent (hsound : system.Sound) {answer : SaFinished}
    (hexpected : system.Expects (.sa answer)) :
    (o.onSaFinished answer).Through (fun _ => True) system
      fun _ final => final.Ended (.sa answer) answer.taskId := by
  obtain ⟨workflow, task, hworkflow, htask, hlinked, hruns, hmay⟩ := hexpected
  obtain ⟨scene, rfl, rfl, hworkflow, htask, hshows, _, _⟩ :=
    hsound.scene_pair hworkflow htask hlinked
  rw [htask]
  exact onSaFinished_ends hshows hworkflow htask hruns hmay

theorem onMlFinished_spent (hsound : system.Sound) {answer : MlFinished}
    (hexpected : system.Expects (.ml answer)) :
    (o.onMlFinished answer).Through (fun _ => True) system
      fun _ final => final.Ended (.ml answer) answer.taskId := by
  obtain ⟨workflow, task, hworkflow, htask, hlinked, hruns, hmay⟩ := hexpected
  obtain ⟨scene, rfl, rfl, hworkflow, htask, hshows, _, _⟩ :=
    hsound.scene_pair hworkflow htask hlinked
  rw [htask]
  unfold onMlFinished
  rw [through_bind]
  apply resolve_through hshows trivial hworkflow htask
  unfold Rest
  dsimp only
  rw [if_neg (by simp [hruns]), if_neg (by simp [RunStatus.open_of_canBecome hmay]), through_bind]
  apply through_clock trivial
  intro moment
  obtain ⟨run, hfinished, hrun⟩ := MlRun.finished_accepted
    (if answer.success = true then answer.result else none) moment hmay
  unfold Rest
  dsimp only
  rw [hfinished]
  dsimp only
  rw [through_bind]
  apply through_moveMl hshows rfl
  intro now next hnext _
  rw [Task.withMl?, if_pos rfl] at hnext ⊢
  have hended : next.Ended (.ml answer) scene.task.id := ⟨hnext.keyed, _, hnext.task, hrun⟩
  refine ⟨trivial, ?_⟩
  exact (settle_ended scene.workflow scene.task.id next hended).mono (fun _ _ => trivial)
    fun _ _ => id

/-- Processing a message that is expected uses it up. -/
theorem process_spent (hsound : system.Sound) {message : Completion} {queue : Queue} {body : Json}
    (haccepted : Completion.parse queue body = .ok message)
    (hexpected : system.Expects message) :
    (o.process message).Through (fun _ => True) system
      fun _ final => final.Spent message := by
  cases message with
  | compile answer => exact onCompileFinished_spent hsound haccepted hexpected
  | sa answer => exact onSaFinished_spent hsound hexpected
  | ml answer => exact onMlFinished_spent hsound hexpected

end Orchestrator

namespace System

open Orchestrator

variable {o : Orchestrator} {start system next : System}

/-- A message that has changed something changes nothing when it is processed once more,
whatever services come in between; and one that has changed nothing changes nothing when it
comes again at once. -/
theorem repeated_message_changes_nothing (hinitial : start.Initial)
    (hreach : Reaches o start system) {queue : Queue} {body : Json} {message : Completion}
    (haccepted : Completion.parse queue body = .ok message) {outcome : Except ServiceError Unit}
    (hruns : (o.process message).Runs system outcome next) :
    (¬ next.SameAs system → ∀ later, Reaches o next later → ∀ again final,
      (o.process message).Runs later again final → final.SameAs later) ∧
    (next.SameAs system → ∀ again final,
      (o.process message).Runs next again final → final.SameAs next) := by
  have hnext : Reaches o start next := .step hreach (.process haccepted hruns)
  obtain ⟨hsound, _⟩ := hinitial.reaches hreach
  by_cases hexpected : system.Expects message
  · have hspent : next.Spent message := (process_spent hsound haccepted hexpected).runs hruns
    have hquiet : ∀ later, Reaches o next later → ∀ again final,
        (o.process message).Runs later again final → final.SameAs later := by
      intro later hlater again final hagain
      obtain ⟨hsound, _⟩ := hinitial.reaches (hnext.trans hlater)
      exact (process_unexpected hsound (hspent.reaches hlater).unexpected).runs hagain
    exact ⟨fun _ => hquiet, fun _ => hquiet next .refl⟩
  · have hsame : next.SameAs system := (process_unexpected hsound hexpected).runs hruns
    refine ⟨fun hchanged => absurd hsame hchanged, fun _ again final hagain => ?_⟩
    obtain ⟨hsound, _⟩ := hinitial.reaches hnext
    exact (process_unexpected hsound ((not_congr hsame.expects).mpr hexpected)).runs hagain

/-- Once the scan is complete, the first answer changes nothing any more. -/
theorem answer_repeated_after_merge :
    ¬ halfFound.SameAs (compiled .compileSaMl) ∧
      (bothFound.store.workflows.get? (Uuid.generated 3)).map Workflow.status = some .complete ∧
      ((smallOrchestrator.process (.sa foundOne)).run quietWorld bothFound).2.SameAs bothFound := by
  have hbefore : ((compiled .compileSaMl).store.tasks.get? (Uuid.generated 2)).map
      (fun task => task.sa.status) = some .running := by
    decide +kernel
  have hafter : (halfFound.store.tasks.get? (Uuid.generated 2)).map
      (fun task => task.sa.status) = some .success := by
    decide +kernel
  have hchanged : ¬ halfFound.SameAs (compiled .compileSaMl) := by
    intro hsame
    rw [hsame.store, hbefore] at hafter
    cases hafter
  have hlater : Reaches smallOrchestrator halfFound bothFound :=
    .step .refl (.process accepts_seenOne (runs_quietly _ _))
  have hquiet := (repeated_message_changes_nothing initial_empty (reaches_compiled .compileSaMl)
    accepts_foundOne (runs_quietly _ _)).1 hchanged bothFound hlater
  refine ⟨hchanged, ?_, hquiet _ _ (runs_quietly _ _)⟩
  decide +kernel

end System

end ScanFlow
