import ScanFlow.Proofs.Race.Traffic

/-!
The deliveries of harmless traffic.

Every message is processed in harmless steps. Where the analysis might be dispatched too early,
the delivery has found out before that it is not: it has read a running workflow that is past
its compile stage, or it has bound the artifact itself, or it has seen or made an engine run end.
-/

namespace ScanFlow

/-- What is learnt from a copy of the workflow. In late traffic, a workflow that runs has been
dispatched. -/
def Stake.reading (c : Circumstances) (known : Stake) (workflow : Workflow) : Stake :=
  { known with
    cleared := known.cleared || (decide (c.traffic = .late) && workflow.isRunning) }

/-- What is learnt when a run has ended. Elsewhere than in late traffic, no run ends too early. -/
def Stake.ending (c : Circumstances) (known : Stake) (ended : Bool) : Stake :=
  { known with cleared := known.cleared || (decide (c.traffic ≠ .late) && ended) }

def Stake.binding (known : Stake) (task : Task) : Stake :=
  { known with bound := known.bound || task.targetKey.isSome }

/-- Going on with this copy of the workflow does no harm. -/
def Stake.Ready (c : Circumstances) (known : Stake) (workflow : Workflow) : Prop :=
  c.traffic ≠ .late ∨ workflow.isRunning = true → known.cleared = true

structure Circumstances.Found (c : Circumstances) (workflow : Workflow) (task : Task)
    (known : Stake) : Prop where
  given : workflow.given = c.origin.workflow.given
  taskId : task.id = c.origin.task.id
  kind : task.kind = c.origin.task.kind
  running : c.traffic = .late → workflow.isRunning = true → known.cleared = true
  ended : c.traffic ≠ .late → task.sa.status.isTerminal = true ∨ task.ml.status.isTerminal = true →
    known.cleared = true

/-- A run that has ended shows that the analysis may be dispatched. -/
theorem Circumstances.Found.ready {c : Circumstances} {workflow : Workflow} {task : Task}
    {known learnt : Stake} (h : c.Found workflow task known)
    (hkept : known.cleared = true → learnt.cleared = true)
    (hended : c.traffic ≠ .late → learnt.cleared = true) : learnt.Ready c workflow := by
  intro hready
  by_cases hlate : c.traffic = .late
  · exact hkept (h.running hlate (hready.resolve_left fun hother => hother hlate))
  · exact hended hlate

namespace Orchestrator

open Program

variable {o : Orchestrator} {c : Circumstances} {α β : Type} {known learnt : Stake}

/-! ### Single calls -/

theorem harmless_of_gentle {program : Program α} (hgentle : program.Only Call.Gentle) :
    program.Honors (harmless c) known fun _ _ => True :=
  honors_mono (honors_of_only hgentle fun _ answer hcall => grants_same answer hcall)
    fun _ _ _ => trivial

/-- A gentle program first. -/
theorem harmless_after {program : Program β} {next : β → Program α}
    {post : Except ServiceError α → Stake → Prop} (hgentle : program.Only Call.Gentle)
    (hnext : ∀ b, (next b).Honors (harmless c) known post) (herror : ∀ e, post (.error e) known) :
    (program >>= next).Honors (harmless c) known post :=
  honors_after hgentle (fun _ answer hcall => grants_same answer hcall) hnext herror

theorem harmless_findWorkflow {post : Except ServiceError (Option Workflow) → Stake → Prop}
    (h : ∀ scene, c.Holds scene → known.Holds c scene.task →
      post (.ok (some scene.workflow)) (known.reading c scene.workflow)) :
    (store (.findWorkflow c.origin.workflow.id)).Honors (harmless c) known post := by
  apply honors_store
  rintro system now ⟨_, scene, hshows, hholds, hknown⟩
  have hid : scene.workflow.id = c.origin.workflow.id :=
    Workflow.id_of_given hholds.given
  have hanswer : (Store.Operation.findWorkflow c.origin.workflow.id).perform now system.store =
      (some scene.workflow, system.store) := by
    rw [← hid, Store.Operation.perform, hshows.workflow]
  refine ⟨known.reading c scene.workflow, ?_, ?_⟩
  · refine grants_gentle ?_ (Or.inr rfl) ?_
    · trivial
    intro met env next hmet hright hmoves
    refine hright.learn (Or.inr rfl) (fun hlearnt => ?_) Or.inl
    refine (Bool.or_eq_true_iff.mp hlearnt).imp_right fun hread => ?_
    obtain ⟨hlate, hrunning⟩ := Bool.and_eq_true_iff.mp hread
    have hlate := of_decide_eq_true hlate
    -- The copy is the workflow of the scene.
    have hsame := hmoves.1 (Workflow.id_of_given hmet.given).symm
    rw [hanswer, Option.some.injEq] at hsame
    have hallows := hmet.allows
    rw [hlate] at hallows ⊢
    exact (hallows (Workflow.isRunning_iff.mp (hsame ▸ hrunning))).2
  · rw [hanswer]
    exact h scene hholds hknown

theorem harmless_task {post : Except ServiceError Task → Stake → Prop}
    (h : ∀ scene, c.Holds scene → known.Holds c scene.task →
      post (.ok scene.task) (known.binding scene.task)) :
    (task c.origin.task.id).Honors (harmless c) known post := by
  apply honors_require
  rintro system now ⟨_, scene, hshows, hholds, hknown⟩
  have hanswer : (Store.Operation.findTask c.origin.task.id).perform now system.store =
      (some scene.task, system.store) := by
    rw [← hholds.taskId, Store.Operation.perform, hshows.task]
  refine ⟨known.binding scene.task, ?_, ?_, ?_⟩
  · refine grants_gentle ?_ (Or.inr rfl) ?_
    · trivial
    intro met env next hmet hright hmoves
    refine hright.learn (Or.inr rfl) Or.inl fun hlearnt => ?_
    refine (Bool.or_eq_true_iff.mp hlearnt).imp_right fun hread => ?_
    have hsame := hmoves.1.1 hmet.taskId.symm
    rw [hanswer, Option.some.injEq] at hsame
    exact hsame ▸ hread
  · intro copy hcopy
    rw [hanswer, Option.some.injEq] at hcopy
    exact hcopy ▸ h scene hholds hknown
  · intro hnone
    rw [hanswer] at hnone
    cases hnone

/-! ### Dispatching the analysis -/

/-- Whether there are rules to be captured does not change on the way. -/
theorem captureRules_harmless {workflow : Workflow}
    (hgiven : workflow.given = c.origin.workflow.given) :
    (captureRules workflow).Honors (harmless c) known fun outcome learnt => learnt = known ∧
      (outcome = .ok none → c.unruled = true) ∧
        ∀ snapshot, outcome = .ok (some snapshot) → c.unruled = false := by
  have htemplate : workflow.templateId = c.origin.workflow.templateId :=
    Workflow.templateId_of_given hgiven
  unfold captureRules
  split
  · exact ⟨rfl, nofun, nofun⟩
  rename_i templateId hsome
  have htells : ∀ system : System, (harmless c).holds known system →
      (system.store.activeRules templateId).isEmpty = c.unruled := by
    rintro system ⟨hunruled, _⟩
    rw [← htemplate, hsome] at hunruled
    exact hunruled
  rw [honors_bind]
  apply honors_store
  intro system now hholds
  refine ⟨known, grants_same _ trivial, ?_⟩
  rw [Store.Operation.perform]
  cases hfound : system.store.template? templateId with
  | none =>
    refine ⟨rfl, fun _ => ?_, fun _ hother => by cases hother⟩
    rw [← htells system hholds, Store.activeRules, hfound]
    rfl
  | some template =>
    have hid : template.id = templateId := by simpa using List.find?_some hfound
    change Honors _ (_ >>= _) _ _
    rw [honors_bind]
    apply honors_store
    intro system now hholds
    refine ⟨known, grants_same _ trivial, ?_⟩
    rw [Store.Operation.perform, hid]
    change Honors _ (if _ then _ else _) _ _
    have htells := htells system hholds
    split
    · rename_i hempty
      exact ⟨rfl, fun _ => htells.symm.trans hempty, fun _ hother => by cases hother⟩
    · rename_i hempty
      refine harmless_after (only_ask trivial) (fun moment => ⟨rfl, ?_, fun _ _ => ?_⟩)
        fun e => ⟨rfl, ?_, ?_⟩
      · intro hother
        cases hother
      · exact htells.symm.trans (by simpa using hempty)
      · intro hother
        cases hother
      · intro _ hother
        cases hother

/-- Without rules, the runs are given up when they may be. -/
theorem abortWithoutRules_harmless (workflow : Workflow) {task : Task} (kind : Task.Kind)
    (htask : task.id = c.origin.task.id) (hunruled : c.unruled = true)
    (hrepeated : c.traffic ≠ .repeated) (hcleared : known.cleared = true) :
    (abortWithoutRules workflow task kind).Honors (harmless c) known fun _ _ => True := by
  have honly : (abortWithoutRules workflow task kind).Only fun {β} (call : Call β) =>
      ∀ answer, (harmless c).grants call answer known known := by
    apply abortWithoutRules_only
    · exact fun answer => grants_same answer trivial
    · intro now next hfinished answer
      obtain ⟨hmay, rfl⟩ := SaRun.finished_eq_ok hfinished
      rw [htask]
      exact grants_moveSa (RunStatus.open_of_canBecome hmay)
        (RunStatus.ofSuccess_isTerminal false) rfl hrepeated
        (fun _ => Or.inr ⟨hunruled, hcleared⟩) rfl id Or.inl
    · intro now next hfinished answer
      obtain ⟨_, rfl⟩ := MlRun.finished_eq_ok hfinished
      rw [htask]
      exact grants_moveMl (RunStatus.ofSuccess_isTerminal false) (fun _ _ => Or.inr hcleared) rfl
        id Or.inl
    · exact fun answer => grants_same answer trivial
  exact honors_mono (honors_of_only honly fun _ answer hcall => hcall answer) fun _ _ _ => trivial

/-- A snapshot is bound to a task with an artifact, whose static analysis has not ended. -/
theorem requestAnalysis_harmless (workflow : Workflow) {task : Task} {kind : Task.Kind}
    (snapshot : TemplateSnapshot) (htask : task.id = c.origin.task.id)
    (hkind : c.origin.task.kind = some kind) (hruled : c.unruled = false)
    (hlate : c.traffic ≠ .late)
    (hunbound : task.targetKey.isSome → c.traffic ≠ .unbound)
    (hopen : c.traffic ≠ .unbound → task.sa.status.isTerminal = false)
    (hbound : task.targetKey.isSome → known.bound = true) :
    (o.requestAnalysis workflow task kind snapshot).Honors (harmless c) known fun _ _ => True := by
  cases hkey : task.targetKey with
  | none =>
    rw [requestAnalysis, hkey]
    trivial
  | some key =>
    have hsome : task.targetKey.isSome := hkey ▸ rfl
    have honly : (o.requestAnalysis workflow task kind snapshot).Only fun {β} (call : Call β) =>
        ∀ answer, (harmless c).grants call answer known known := by
      apply requestAnalysis_only
      · exact fun answer => grants_same answer trivial
      · exact fun _ _ answer => grants_same answer trivial
      · intro sa ml hbinds answer
        have hsa : sa.status.isTerminal = false :=
          hbinds.sa_open (hopen (hunbound hsome))
        rw [htask]
        exact grants_bindAnalysis answer hlate (hunbound hsome) hruled (hbound hsome) hsa hkind
      · exact fun _ _ answer => grants_same answer trivial
    exact honors_mono (honors_of_only honly fun _ answer hcall => hcall answer) fun _ _ _ => trivial

theorem dispatchAnalysis_harmless (hfit : c.Fit) {workflow : Workflow}
    (hgiven : workflow.given = c.origin.workflow.given) (hcleared : known.cleared = true) :
    (o.dispatchAnalysis workflow).Honors (harmless c) known fun _ _ => True := by
  have hshape : workflow.shape = c.origin.workflow.shape :=
    Workflow.shape_of_given hgiven
  have htaskId : workflow.taskId = c.origin.task.id :=
    (Workflow.taskId_of_given hgiven).trans hfit.linked
  rw [dispatchAnalysis, honors_bind, htaskId]
  apply harmless_task
  intro scene hholds hknown
  have hallows := hholds.allows
  change Honors _ (if _ then _ else _) _ _
  split
  · trivial
  rename_i hnone
  -- In late traffic, the snapshot would be bound.
  have hlate : c.traffic ≠ .late := by
    intro hlate
    have hclears := hknown.cleared hcleared
    rw [hlate] at hclears
    exact hnone hclears
  split
  · trivial
  rename_i kind hkind
  rw [hshape] at hkind
  rw [honors_bind]
  apply honors_mono (captureRules_harmless hgiven)
  rintro outcome _ ⟨rfl, hunruled, hruled⟩
  cases outcome with
  | error e => trivial
  | ok captured =>
    cases captured with
    | none =>
      have hunruled := hunruled rfl
      refine abortWithoutRules_harmless workflow kind hholds.taskId hunruled ?_ ?_
      · intro hrepeated
        rw [hrepeated] at hallows
        cases hallows.2.symm.trans hunruled
      · exact hcleared
    | some snapshot =>
      have hruled := hruled snapshot rfl
      refine requestAnalysis_harmless workflow snapshot hholds.taskId
        (hfit.matched.kind.trans hkind) hruled hlate (hholds.not_unbound hkind) ?_ ?_
      · exact fun hunbound => hholds.sa_open hlate hunbound hruled hnone
      · exact fun hsome => Bool.or_eq_true_iff.mpr (Or.inr hsome)

theorem finish_gentle (id : Uuid) (status : Workflow.Status) :
    (Program.finish id status).Only Call.Gentle :=
  only_bind (only_ask trivial) fun _ => trivial

theorem dispatchCompile_gentle (workflow : Workflow) :
    (o.dispatchCompile workflow).Only Call.Gentle := by
  refine only_bind (only_require trivial) fun code => ?_
  refine only_bind (only_require trivial) fun source => ?_
  refine only_bind (only_blobUrl trivial) fun url => ?_
  exact only_bind (only_sendRequest trivial) fun _ => trivial

theorem dispatch_harmless (hfit : c.Fit) (stage : Stage) {workflow : Workflow}
    (hgiven : workflow.given = c.origin.workflow.given)
    (hcleared : stage = .analysis → known.cleared = true) :
    (o.dispatch stage workflow).Honors (harmless c) known fun _ _ => True := by
  cases stage with
  | compile => exact harmless_of_gentle (dispatchCompile_gentle workflow)
  | analysis => exact dispatchAnalysis_harmless hfit hgiven (hcleared rfl)

theorem dispatchFirst_harmless (hfit : c.Fit) {workflow : Workflow}
    (hgiven : workflow.given = c.origin.workflow.given)
    (hcleared : workflow.nextStage? = some .analysis → known.cleared = true) :
    (o.dispatchFirst workflow).Honors (harmless c) known fun _ _ => True := by
  unfold dispatchFirst
  split
  · trivial
  rename_i stage hstage
  rw [honors_bind, honors_attempt]
  apply honors_mono (dispatch_harmless hfit stage hgiven fun hanalysis =>
    hcleared (hanalysis ▸ hstage))
  intro outcome learnt _
  cases outcome with
  | ok _ => trivial
  | error e =>
    exact harmless_of_gentle (only_bind (finish_gentle workflow.id .aborted) fun _ => trivial)

theorem chain_harmless (hfit : c.Fit) {workflow : Workflow}
    (hgiven : workflow.given = c.origin.workflow.given)
    (hcleared : workflow.isRunning = true → known.cleared = true) :
    (o.chain workflow).Honors (harmless c) known fun _ _ => True := by
  unfold chain
  split
  · trivial
  rename_i hrunning
  split
  · trivial
  rename_i stage hstage
  rw [honors_bind, honors_attempt]
  apply honors_mono (dispatch_harmless hfit stage hgiven fun _ =>
    hcleared (by simpa using hrunning))
  intro outcome learnt _
  cases outcome with
  | ok _ => trivial
  | error e => exact harmless_of_gentle (finish_gentle workflow.id .aborted)

/-! ### Answers -/

theorem advance_harmless {workflow : Workflow}
    (hgiven : workflow.given = c.origin.workflow.given) (hready : known.Ready c workflow) :
    (advance workflow).Honors (harmless c) known fun outcome learnt => learnt = known ∧
      ∀ current, outcome = .ok current → current.given = c.origin.workflow.given ∧
        (current.isRunning = true → known.cleared = true) := by
  have hid : workflow.id = c.origin.workflow.id := Workflow.id_of_given hgiven
  unfold advance
  split
  · refine ⟨rfl, ?_⟩
    rintro _ ⟨⟩
    exact ⟨hgiven, fun hrunning => hready (Or.inr hrunning)⟩
  rename_i hguard
  have hcleared : known.cleared = true := hready (Or.inr (by simp_all))
  refine harmless_after (only_ask trivial) (fun moment => ?_) fun _ => ⟨rfl, nofun⟩
  rw [honors_bind, hid]
  apply honors_store
  rintro system now ⟨_, scene, hshows, hholds, _⟩
  refine ⟨known, grants_same _ trivial, ?_⟩
  have hsame : scene.workflow.id = c.origin.workflow.id :=
    Workflow.id_of_given hholds.given
  have hanswer := (hshows.answers now (.advance c.origin.workflow.id moment)) hsame.symm
  rw [hanswer]
  cases hadvanced : scene.workflow.advanced? moment with
  | some advanced =>
    refine ⟨rfl, ?_⟩
    rintro _ ⟨⟩
    refine ⟨?_, fun _ => hcleared⟩
    rw [← hholds.given, (Workflow.advanced?_eq_some hadvanced).2.2]
    rfl
  | none =>
    change Honors _ (_ >>= _) _ _
    rw [honors_bind]
    apply honors_store
    rintro system now ⟨_, scene, hshows, hholds, _⟩
    refine ⟨known, grants_same _ trivial, rfl, ?_⟩
    have hsame : scene.workflow.id = c.origin.workflow.id :=
      Workflow.id_of_given hholds.given
    rw [(hshows.answers now (.findWorkflow c.origin.workflow.id)) hsame.symm]
    rintro _ ⟨⟩
    exact ⟨hholds.given, fun _ => hcleared⟩

theorem settle_harmless (hfit : c.Fit) {workflow : Workflow} (taskId : Uuid)
    (hgiven : workflow.given = c.origin.workflow.given) (hready : known.Ready c workflow) :
    (o.settle workflow taskId).Honors (harmless c) known fun _ _ => True := by
  rw [settle, honors_bind]
  apply honors_mono (advance_harmless hgiven hready)
  rintro outcome _ ⟨rfl, hcurrent⟩
  cases outcome with
  | error e => trivial
  | ok current =>
    obtain ⟨hsame, hcleared⟩ := hcurrent current rfl
    refine harmless_after (only_ask trivial) (fun found => ?_) fun _ => trivial
    cases found with
    | none => trivial
    | some task =>
      refine harmless_after (conclude_only current task (fun _ => trivial) trivial
        (fun _ _ => trivial) fun _ => trivial) (fun _ => ?_) fun _ => trivial
      split
      · trivial
      · exact chain_harmless hfit hsame hcleared

theorem resettle_harmless (hfit : c.Fit) {workflow : Workflow} (task : Task)
    (hgiven : workflow.given = c.origin.workflow.given) (hready : known.Ready c workflow) :
    (o.resettle workflow task).Honors (harmless c) known fun _ _ => True := by
  unfold resettle
  split
  · exact settle_harmless hfit task.id hgiven hready
  · trivial

theorem resolve_harmless (hfit : c.Fit) (taskId : Uuid) :
    (resolve c.origin.workflow.id taskId).Honors (harmless c) known fun outcome learnt =>
      ∀ workflow task, outcome = .ok (some (workflow, task)) →
        taskId = c.origin.task.id ∧ c.Found workflow task learnt := by
  rw [resolve, honors_bind]
  apply harmless_findWorkflow
  intro scene hholds hknown
  change Honors _ (_ >>= _) _ _
  rw [honors_bind]
  apply honors_store
  rintro system now ⟨_, met, hshows, hmet, hright⟩
  rw [Store.Operation.perform]
  have hlinked : scene.workflow.taskId = c.origin.task.id :=
    (Workflow.taskId_of_given hholds.given).trans hfit.linked
  cases hfound : system.store.tasks.get? taskId with
  | none =>
    refine ⟨_, grants_same _ trivial, ?_⟩
    intro workflow task hnone
    cases hnone
  | some task =>
    have hid := hshows.keyed.tasks taskId task hfound
    by_cases hours : taskId = c.origin.task.id
    · -- The task is the one of the scene.
      rw [hours, ← hmet.taskId, hshows.task, Option.some.injEq] at hfound
      subst hfound
      refine ⟨(known.reading c scene.workflow).ending c
        (met.task.sa.status.isTerminal || met.task.ml.status.isTerminal), ?_, ?_⟩
      · refine grants_gentle ?_ (Or.inr rfl) ?_
        · trivial
        intro later env next hlater hholdsLater hmoves
        refine hholdsLater.learn (Or.inr rfl) (fun hlearnt => ?_) Or.inl
        refine (Bool.or_eq_true_iff.mp hlearnt).imp_right fun hread => ?_
        obtain ⟨hlate, hended⟩ := Bool.and_eq_true_iff.mp hread
        have hsame := hmoves.1.1 (hours.trans hlater.taskId.symm)
        rw [Option.some.injEq] at hsame
        rw [hsame] at hended
        refine Traffic.clears (of_decide_eq_true hlate) fun hsingle hunruled => ?_
        have hallows := hlater.allows
        rw [hsingle] at hallows
        rcases Bool.or_eq_true_iff.mp hended with hsa | hml
        · exact (hallows.saEnded hsa).1
        · exact hallows.mlEnded hml hunruled
      · intro workflow task houtcome
        split at houtcome
        · cases houtcome
          refine ⟨hours, hholds.given, hmet.taskId, hmet.kind, ?_, ?_⟩
          · intro hlate hrunning
            simp [Stake.ending, Stake.reading, hlate, hrunning]
          · intro hlate hended
            have hended := Bool.or_eq_true_iff.mpr hended
            simp [Stake.ending, hlate, hended]
        · cases houtcome
    · refine ⟨_, grants_same _ trivial, ?_⟩
      intro workflow other houtcome
      split at houtcome
      · rename_i hsame
        exact absurd (hid.symm.trans (hsame.symm.trans hlinked)) hours
      · cases houtcome

theorem acceptArtifact_harmless (hfit : c.Fit) {workflow : Workflow} {task : Task}
    {artifact : CompileArtifact} (hgiven : workflow.given = c.origin.workflow.given)
    (htask : task.id = c.origin.task.id) (hlate : c.traffic ≠ .late)
    (hunbound : c.traffic = .unbound → c.origin.workflow.shape.taskKind? = none)
    (hkey : known.key = some artifact.objectKey) :
    (o.acceptArtifact workflow task artifact).Honors (harmless c) known fun _ _ => True := by
  have hshape : workflow.shape = c.origin.workflow.shape :=
    Workflow.shape_of_given hgiven
  have hmarks : c.traffic = .unbound → c.origin.workflow.shape.taskKind? = none ∧
      (if workflow.shape.runsSa then some compiledProgress else none) = none := by
    intro htraffic
    refine ⟨hunbound htraffic, ?_⟩
    have hnone := hunbound htraffic
    rw [hshape]
    revert hnone
    cases c.origin.workflow.shape <;> decide
  unfold acceptArtifact
  rw [honors_bind, htask]
  apply honors_storeOr
  rintro system now ⟨_, scene, hshows, hholds, _⟩
  have hanswer := (hshows.answers now (.setArtifact c.origin.task.id artifact.name
    artifact.objectKey (if workflow.shape.runsSa then some compiledProgress else none)))
    hholds.taskId.symm
  rw [hanswer]
  cases hbound : (scene.task.withArtifact? artifact.name artifact.objectKey
    (if workflow.shape.runsSa then some compiledProgress else none) now).isSome with
  | false =>
    refine ⟨{ known with key := none }, grants_setArtifact hlate hkey hmarks rfl id Or.inl, ?_⟩
    trivial
  | true =>
    refine ⟨{ known with key := none, cleared := true },
      grants_setArtifact hlate hkey hmarks rfl id fun _ => Or.inr rfl, ?_⟩
    change Honors _ (_ >>= _) _ _
    refine harmless_after (only_newId trivial) (fun id => ?_) fun _ => trivial
    refine harmless_after (only_ask trivial) (fun created => ?_) fun _ => trivial
    refine harmless_after (only_storeOr trivial) (fun added => ?_) fun _ => trivial
    refine harmless_after (only_ask trivial) (fun moment => ?_) fun _ => trivial
    have hid : workflow.id = c.origin.workflow.id := Workflow.id_of_given hgiven
    rw [honors_bind, hid]
    apply honors_store
    rintro system now ⟨_, scene, hshows, hholds, _⟩
    refine ⟨_, grants_same _ trivial, ?_⟩
    have hsame : scene.workflow.id = c.origin.workflow.id :=
      Workflow.id_of_given hholds.given
    rw [(hshows.answers now (.advance c.origin.workflow.id moment)) hsame.symm]
    cases hadvanced : scene.workflow.advanced? moment with
    | none => trivial
    | some advanced =>
      have hstill : advanced.given = c.origin.workflow.given := by
        rw [← hholds.given, (Workflow.advanced?_eq_some hadvanced).2.2]
        rfl
      change Honors _ (if _ then _ else _) _ _
      split
      · exact harmless_of_gentle (finish_gentle advanced.id .complete)
      · exact chain_harmless hfit hstill fun _ => rfl

theorem onCompileFinished_harmless (hfit : c.Fit) {message : CompileFinished}
    (hworkflow : message.workflowId = c.origin.workflow.id)
    (hadmits : c.traffic.Admits c.unruled c.origin.workflow (.compile message))
    (hkey : known.key = (Completion.compile message).key?) :
    (o.onCompileFinished message).Honors (harmless c) known fun _ _ => True := by
  unfold onCompileFinished
  rw [honors_bind, hworkflow]
  apply harmless_findWorkflow
  intro scene hholds hknown
  change Honors _ (if _ then _ else _) _ _
  split
  · trivial
  rename_i hguard
  have hlate : c.traffic ≠ .late := by
    intro hlate
    have hallows := hholds.allows
    rw [hlate] at hallows
    simp only [Bool.or_eq_true, Bool.not_eq_true', decide_eq_true_eq, not_or, Bool.not_eq_false,
      ne_eq, not_not] at hguard
    exact (hallows (Workflow.isRunning_iff.mp hguard.1)).1 hguard.2
  split
  · exact harmless_of_gentle (finish_gentle _ _)
  rename_i hsuccess
  split
  · trivial
  rename_i artifact hartifact
  have hbrings : (Completion.compile message).key? = some artifact.objectKey := by
    have hsuccess : message.success = true := by simpa using hsuccess
    simp [Completion.key?, hsuccess, CompileFinished.key?, hartifact]
  rw [hbrings] at hkey
  have hlinked : scene.workflow.taskId = c.origin.task.id :=
    (Workflow.taskId_of_given hholds.given).trans hfit.linked
  rw [honors_bind, hlinked]
  apply honors_store
  rintro system now ⟨_, met, hshows, hmet, _⟩
  refine ⟨_, grants_same _ trivial, ?_⟩
  rw [Store.Operation.perform, ← hmet.taskId, hshows.task]
  refine acceptArtifact_harmless hfit hholds.given hmet.taskId hlate ?_ hkey
  intro htraffic
  rw [htraffic] at hadmits
  refine hadmits.resolve_right ?_
  rw [hbrings]
  exact Option.some_ne_none _

/-- What follows the end of a run. -/
theorem settled_harmless (hfit : c.Fit) {workflow : Workflow} {task : Task} (moved : Bool)
    (hfound : c.Found workflow task known) (hmoved : moved = true) :
    (o.settle workflow task.id).Honors (harmless c) (known.ending c moved) fun _ _ => True := by
  refine settle_harmless hfit task.id hfound.given (hfound.ready ?_ ?_)
  · intro hcleared
    simp [Stake.ending, hcleared]
  · intro hlate
    simp [Stake.ending, hlate, hmoved]

theorem ending_cleared {moved : Bool} (h : (known.ending c moved).cleared = true) :
    known.cleared = true ∨ moved = true ∧ c.traffic ≠ .late := by
  refine (Bool.or_eq_true_iff.mp h).imp_right fun hended => ?_
  obtain ⟨hlate, hmoved⟩ := Bool.and_eq_true_iff.mp hended
  exact ⟨hmoved, of_decide_eq_true hlate⟩

theorem acceptFindings_harmless (hfit : c.Fit) {workflow : Workflow} {task : Task}
    {message : SaFinished} (hfound : c.Found workflow task known)
    (hrepeated : c.traffic ≠ .repeated)
    (hsuccess : c.traffic = .single → message.success = true) :
    (o.acceptFindings workflow task message).Honors (harmless c) known fun _ _ => True := by
  unfold acceptFindings
  refine harmless_after (only_ask trivial) (fun first => ?_) fun _ => trivial
  refine harmless_after (only_ask trivial) (fun now => ?_) fun _ => trivial
  dsimp only
  split
  · trivial
  rename_i next hfinished
  obtain ⟨hmay, rfl⟩ := SaRun.finished_eq_ok hfinished
  have hrunning : c.traffic = .single → task.sa.status = .running := by
    intro hsingle
    rw [hsuccess hsingle] at hmay
    cases hstatus : task.sa.status <;> rw [hstatus] at hmay <;> first | rfl | cases hmay
  -- The run is ended, or somebody else has ended it.
  have hmove : ∀ (ids : List Uuid) (run : SaRun), run.status.isTerminal = true →
      run.progress = finishedProgress →
      (o.endSa workflow task run (discardGroups task.id ids)).Honors (harmless c) known
        fun _ _ => True := by
    intro ids run hended hrounded
    unfold endSa discardGroups
    rw [honors_bind]
    apply honors_store
    intro system now _
    generalize (Store.Operation.perform now (.moveSa task.id task.sa.status run)
      system.store).1 = moved
    refine ⟨known.ending c moved, ?_, ?_⟩
    · rw [hfound.taskId]
      exact grants_moveSa (RunStatus.open_of_canBecome hmay) hended hrounded hrepeated
        (fun hsingle => Or.inl (hrunning hsingle)) rfl id ending_cleared
    · change Honors _ (if _ then _ else _) _ _
      split
      · rename_i hmoved
        exact settled_harmless hfit _ hfound hmoved
      · split
        · exact harmless_of_gentle (only_ask trivial)
        · trivial
  split
  · exact harmless_after (only_storeOr trivial)
      (fun _ => hmove _ _ (RunStatus.ofSuccess_isTerminal message.success) rfl) fun _ => trivial
  · exact hmove _ _ (RunStatus.ofSuccess_isTerminal message.success) rfl

/-- Settling once more, after a run has been found ended. -/
theorem resettled_harmless (hfit : c.Fit) {workflow : Workflow} {task : Task}
    (hfound : c.Found workflow task known)
    (hended : task.sa.status.isTerminal = true ∨ task.ml.status.isTerminal = true) :
    (o.resettle workflow task).Honors (harmless c) known fun _ _ => True :=
  resettle_harmless hfit task hfound.given
    (hfound.ready id fun hlate => hfound.ended hlate hended)

theorem onSaFinished_harmless (hfit : c.Fit) {message : SaFinished}
    (hworkflow : message.workflowId = c.origin.workflow.id)
    (hadmits : c.traffic.Admits c.unruled c.origin.workflow (.sa message)) :
    (o.onSaFinished message).Honors (harmless c) known fun _ _ => True := by
  unfold onSaFinished
  rw [honors_bind, hworkflow]
  apply honors_mono (resolve_harmless hfit message.taskId)
  intro outcome learnt houtcome
  rcases outcome with e | _ | ⟨workflow, task⟩
  · trivial
  · trivial
  obtain ⟨hours, hfound⟩ := houtcome workflow task rfl
  change Honors _ (if _ then _ else _) _ _
  split
  · trivial
  rename_i hruns
  split
  · rename_i hended
    exact resettled_harmless hfit hfound (Or.inl hended)
  refine acceptFindings_harmless hfit hfound ?_ ?_
  · intro hrepeated
    rw [hrepeated] at hadmits
    exact hadmits (hours.trans hfit.linked.symm)
  · intro hsingle
    rw [hsingle] at hadmits
    rw [← Bool.not_eq_false]
    intro hfailure
    refine hadmits ⟨hworkflow, hours.trans hfit.linked.symm, hfailure, ?_⟩
    rw [← hfit.matched.runsSa, Task.runsSa, ← hfound.kind]
    simpa [Task.runsSa] using hruns

theorem onMlFinished_harmless (hfit : c.Fit) {message : MlFinished}
    (hworkflow : message.workflowId = c.origin.workflow.id)
    (hadmits : c.traffic.Admits c.unruled c.origin.workflow (.ml message)) :
    (o.onMlFinished message).Honors (harmless c) known fun _ _ => True := by
  unfold onMlFinished
  rw [honors_bind, hworkflow]
  apply honors_mono (resolve_harmless hfit message.taskId)
  intro outcome learnt houtcome
  rcases outcome with e | _ | ⟨workflow, task⟩
  · trivial
  · trivial
  obtain ⟨hours, hfound⟩ := houtcome workflow task rfl
  change Honors _ (if _ then _ else _) _ _
  split
  · trivial
  rename_i hruns
  split
  · rename_i hended
    exact resettled_harmless hfit hfound (Or.inr hended)
  have hsuccess : c.traffic = .single → c.unruled = true → message.success = true := by
    intro hsingle hunruled
    rw [hsingle] at hadmits
    rw [← Bool.not_eq_false]
    intro hfailure
    refine hadmits hunruled ⟨hworkflow, hours.trans hfit.linked.symm, hfailure, ?_⟩
    rw [← hfit.matched.runsMl, Task.runsMl, ← hfound.kind]
    simpa [Task.runsMl] using hruns
  refine harmless_after (only_ask trivial) (fun now => ?_) fun _ => trivial
  dsimp only
  split
  · trivial
  rename_i next hfinished
  obtain ⟨hmay, rfl⟩ := MlRun.finished_eq_ok hfinished
  have hrunning : c.traffic = .single → c.unruled = true → task.ml.status = .running := by
    intro hsingle hunruled
    rw [hsuccess hsingle hunruled] at hmay
    cases hstatus : task.ml.status <;> rw [hstatus] at hmay <;> first | rfl | cases hmay
  rw [honors_bind]
  apply honors_store
  intro system moment _
  generalize (Store.Operation.perform moment (.moveMl task.id task.ml.status _)
    system.store).1 = moved
  refine ⟨learnt.ending c moved, ?_, ?_⟩
  · rw [hfound.taskId]
    exact grants_moveMl (RunStatus.ofSuccess_isTerminal message.success)
      (fun hsingle hunruled => Or.inl (hrunning hsingle hunruled)) rfl id ending_cleared
  · change Honors _ (if _ then _ else _) _ _
    split
    · rename_i hmoved
      exact settled_harmless hfit _ hfound hmoved
    · trivial

/-- Every delivery of harmless traffic is harmless, if no other one brings its artifact. -/
theorem process_harmless (hfit : c.Fit) {message : Completion}
    (hworkflow : message.workflowId = c.origin.workflow.id)
    (hadmits : c.traffic.Admits c.unruled c.origin.workflow message)
    (hkey : known.key = message.key?) :
    (o.process message).Honors (harmless c) known fun _ _ => True := by
  cases message with
  | compile message => exact onCompileFinished_harmless hfit hworkflow hadmits hkey
  | sa message => exact onSaFinished_harmless hfit hworkflow hadmits
  | ml message => exact onMlFinished_harmless hfit hworkflow hadmits

end Orchestrator

end ScanFlow
