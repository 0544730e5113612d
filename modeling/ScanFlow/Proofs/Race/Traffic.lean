import ScanFlow.Proofs.Order.Premature
import ScanFlow.Proofs.Program.Pact

/-!
What keeps the record of a static analysis that has ended.

Two calls write to the record without comparing its status: the one that binds an artifact
marks the progress of the run, and the one that binds the snapshot starts the run anew, both
from what has been read before. Whether they meet a run that has ended depends on which messages
are on their way at once. Some traffic is harmless: when nobody waits for a compiler any more,
when there is nothing to be bound, when each artifact is brought once and no run is ended before
there is one, and when no run is ended at all. In each of these the record lasts.
-/

namespace ScanFlow

/-- The messages that are on their way to one workflow at once, as far as they are harmless. -/
inductive Traffic where
  /-- The workflow does not wait for a compiler. -/
  | late
  /-- No message brings an artifact, or the workflow has no use for one. -/
  | unbound
  /-- No artifact is brought twice, and no run is ended before it is there. -/
  | single
  /-- An artifact may be brought twice, but no run is ended. -/
  | repeated
  deriving DecidableEq

def Completion.key? : Completion → Option String
  | .compile message => if message.success then message.key? else none
  | _ => none

structure Task.Timely (unruled : Bool) (task : Task) : Prop where
  target : task.snapshot.isSome → task.targetKey.isSome
  started : task.sa.status = .running ∨ task.ml.status = .running → task.snapshot.isSome
  saEnded : task.sa.status.isTerminal = true →
    task.targetKey.isSome ∧ (task.snapshot.isSome ∨ unruled = true)
  mlEnded : task.ml.status.isTerminal = true → unruled = true → task.targetKey.isSome

namespace Traffic

def Admits (unruled : Bool) (workflow : Workflow) : Traffic → Completion → Prop
  | unbound, message => workflow.shape.taskKind? = none ∨ message.key? = none
  | single, .sa answer => ¬ (Completion.sa answer).ReportsFailure workflow
  | single, .ml answer => unruled = true → ¬ (Completion.ml answer).ReportsFailure workflow
  | repeated, .sa answer => answer.taskId ≠ workflow.taskId
  | _, _ => True

def Allows (unruled : Bool) (workflow : Workflow) (task : Task) : Traffic → Prop
  | late => workflow.status = .running →
      workflow.nextStage? ≠ some .compile ∧ task.snapshot.isSome
  | unbound => task.targetKey = none ∨ workflow.shape.taskKind? = none
  | single => task.Timely unruled
  | repeated => task.sa.status.isTerminal = false ∧ unruled = false

/-- Whoever dispatches the analysis now does no harm. -/
def Clears (unruled : Bool) (task : Task) : Traffic → Prop
  | late => task.snapshot.isSome
  | single => unruled = true → task.targetKey.isSome
  | _ => True

end Traffic

/-- The traffic that a workflow meets, the scene that it starts from, and whether the template
of the workflow is without active rules. -/
structure Circumstances where
  origin : Scene
  traffic : Traffic
  unruled : Bool

namespace Circumstances

structure Fit (c : Circumstances) : Prop where
  matched : Matched c.origin.workflow c.origin.task
  linked : c.origin.workflow.taskId = c.origin.task.id

/-- What holds of the scene at every moment. -/
structure Holds (c : Circumstances) (scene : Scene) : Prop where
  given : scene.workflow.given = c.origin.workflow.given
  taskId : scene.task.id = c.origin.task.id
  kind : scene.task.kind = c.origin.task.kind
  rounded : scene.task.sa.status.isTerminal = true → scene.task.sa.progress = finishedProgress
  allows : c.traffic.Allows c.unruled scene.workflow scene.task

end Circumstances

/-- What a delivery can still bind, and what it has found out: that dispatching the analysis does
no harm, and that an artifact is bound. -/
structure Stake where
  key : Option String
  cleared : Bool
  bound : Bool

namespace Stake

/-- What is known is right, and what can still be bound has not been bound. -/
structure Holds (c : Circumstances) (stake : Stake) (task : Task) : Prop where
  key : c.traffic = .single → ∀ key, stake.key = some key → task.targetKey ≠ some key
  cleared : stake.cleared = true → c.traffic.Clears c.unruled task
  bound : stake.bound = true → task.targetKey.isSome

/-- What a call makes of the scene, and of what the caller knows. -/
structure Yields (c : Circumstances) (known learnt : Stake) (scene next : Scene) : Prop where
  holds : c.Holds next
  kept : scene.task.sa.status.isTerminal = true → next.task.sa = scene.task.sa
  right : learnt.Holds c next.task
  spends : learnt.key = none ∨ learnt.key = known.key
  binds : ∀ key, next.task.targetKey = some key →
    scene.task.targetKey = some key ∨ known.key = some key

end Stake

/-- Deliveries rely on what they have found out. A call is granted if it leaves a run that has
ended as it is, and if what the caller has learnt from its answer is right. -/
def harmless (c : Circumstances) : Pact Stake where
  holds known system :=
    system.store.unruled c.origin.workflow.templateId = c.unruled ∧
      ∃ scene, system.Shows scene ∧ c.Holds scene ∧ known.Holds c scene.task
  grants call answer known learnt :=
    ∀ scene env next, c.Holds scene → known.Holds c scene.task →
      call.Moves env scene answer next → known.Yields c learnt scene next

/-! ### What calls leave alone -/

namespace Store.Operation

variable {α : Type} {workflow : Workflow} {task : Task}

/-- No operation changes which rules are active. -/
theorem unruled (operation : Operation α) (now : Timestamp) (store : Store) :
    (operation.perform now store).2.unruled = store.unruled := by
  have hframe : ∀ {α : Type} {operation : Operation α}, operation.Calm →
      (operation.perform now store).2.unruled = store.unruled := by
    intro α operation hcalm
    exact unruled_of_frame (hcalm.frame now { System.empty with store })
  cases operation with
  | createCode code source => rfl
  | registerCompiled codeId file =>
    obtain ⟨codes, files, hrest⟩ := registerCompiled_rest store codeId file
    rw [perform, hrest]
    rfl
  | _ => exact hframe trivial

theorem onWorkflow_given (operation : Operation α) (now : Timestamp) (workflow : Workflow) :
    (operation.onWorkflow now workflow).given = workflow.given := by
  rcases operation.onWorkflow_cases now workflow with h | ⟨_, _, _, h⟩ | ⟨_, _, h⟩
  · rw [h]
  · rw [h]
    rfl
  · rw [h]
    rfl

/-- What is done to the workflow leads to no traffic that is not allowed. -/
theorem onWorkflow_allows (operation : Operation α) (now : Timestamp) {traffic : Traffic}
    {unruled : Bool} (h : traffic.Allows unruled workflow task) :
    traffic.Allows unruled (operation.onWorkflow now workflow) task := by
  have hshape : (operation.onWorkflow now workflow).shape = workflow.shape :=
    Workflow.shape_of_fixed (operation.onWorkflow_fixed now workflow)
  cases traffic with
  | unbound =>
    change _ ∨ _
    rw [hshape]
    exact h
  | single | repeated => exact h
  | late =>
    intro hrunning
    rcases operation.onWorkflow_cases now workflow with
      hsame | ⟨moment, hbefore, hleft, hsame⟩ | ⟨status, hmay, hsame⟩
    · rw [hsame] at hrunning ⊢
      exact h hrunning
    · refine ⟨?_, (h (Workflow.isRunning_iff.mp hbefore)).2⟩
      intro hstage
      have hzero := (Workflow.nextStage?_eq_compile hstage).1
      rw [hsame] at hzero
      cases hzero
    · rw [hsame] at hrunning
      obtain rfl : status = .running := hrunning
      cases hstatus : workflow.status <;> simp [hstatus, Workflow.Status.canBecome] at hmay

end Store.Operation

/-- An operation that writes neither to an engine run of the task nor binds anything to it. -/
def Store.Operation.Gentle {α : Type} (operation : Operation α) : Prop :=
  match operation with
  | .setArtifact _ _ _ _ | .bindAnalysis _ _ | .moveSa _ _ _ | .moveMl _ _ _ => False
  | _ => True

def Call.Gentle {β : Type} (call : Call β) : Prop :=
  match call with
  | .store operation => operation.Gentle
  | _ => True

theorem Store.Operation.Gentle.onTask {α : Type} {operation : Operation α}
    (hgentle : operation.Gentle) (now : Timestamp) (task : Task) :
    (operation.onTask now task).course = task.course := by
  apply changed_keeps Task.course
  intro id change hchange next hnext
  cases operation with
  | setArtifact | bindAnalysis | moveSa | moveMl => exact hgentle.elim
  | claimMerge =>
    obtain ⟨_, rfl⟩ := Prod.mk.inj (Option.some.inj hchange)
    exact Task.withClaim?_course hnext
  | storeSummary | setAuditCount =>
    obtain ⟨_, rfl⟩ := Prod.mk.inj (Option.some.inj hchange)
    rw [← Option.some.inj hnext]
    rfl
  | _ => cases hchange

/-! ### Granted calls -/

section Grants

variable {c : Circumstances} {known learnt : Stake} {scene next : Scene} {task after : Task}

theorem Traffic.Allows.congr {traffic : Traffic} {unruled : Bool} {workflow : Workflow}
    (h : traffic.Allows unruled workflow task) (hcourse : after.course = task.course) :
    traffic.Allows unruled workflow after := by
  simp only [Task.course, Prod.mk.injEq] at hcourse
  obtain ⟨_, _, htarget, hsnapshot, hsa, hml⟩ := hcourse
  cases traffic with
  | late =>
    intro hrunning
    rw [hsnapshot]
    exact h hrunning
  | unbound =>
    change _ ∨ _
    rw [htarget]
    exact h
  | single =>
    obtain ⟨hbound, hstarted, hsaEnded, hmlEnded⟩ := h
    rw [← htarget, ← hsnapshot] at hbound
    rw [← hsa, ← hml, ← hsnapshot] at hstarted
    rw [← hsa, ← htarget, ← hsnapshot] at hsaEnded
    rw [← hml, ← htarget] at hmlEnded
    exact ⟨hbound, hstarted, hsaEnded, hmlEnded⟩
  | repeated =>
    change _ ∧ _
    rw [hsa]
    exact h

/-- What is bound stays bound, so that only a further artifact can prove somebody wrong. -/
theorem Stake.Holds.later (h : known.Holds c task)
    (htarget : ∀ key, task.targetKey = some key → after.targetKey = some key)
    (hsnapshot : ∀ snapshot, task.snapshot = some snapshot → after.snapshot = some snapshot)
    (hown : c.traffic = .single → ∀ key, known.key = some key → after.targetKey = some key →
      task.targetKey = some key) : known.Holds c after := by
  have htarget : task.targetKey.isSome → after.targetKey.isSome := by
    intro hsome
    obtain ⟨key, hkey⟩ := Option.isSome_iff_exists.mp hsome
    exact Option.isSome_iff_exists.mpr ⟨key, htarget key hkey⟩
  have hsnapshot : task.snapshot.isSome → after.snapshot.isSome := by
    intro hsome
    obtain ⟨snapshot, hbound⟩ := Option.isSome_iff_exists.mp hsome
    exact Option.isSome_iff_exists.mpr ⟨snapshot, hsnapshot snapshot hbound⟩
  obtain ⟨hkey, hcleared, hbound⟩ := h
  refine ⟨?_, ?_, fun hknown => htarget (hbound hknown)⟩
  · intro hsingle key hmine hbound
    exact hkey hsingle key hmine (hown hsingle key hmine hbound)
  · intro hknown
    have hclears := hcleared hknown
    cases htraffic : c.traffic with
    | late =>
      rw [htraffic] at hclears
      exact hsnapshot hclears
    | single =>
      rw [htraffic] at hclears
      exact fun hunruled => htarget (hclears hunruled)
    | unbound | repeated => trivial

/-- Outside late traffic, an artifact is all that a dispatch may have to wait for. -/
theorem Traffic.clears {traffic : Traffic} {unruled : Bool} (hlate : traffic ≠ .late)
    (h : traffic = .single → unruled = true → task.targetKey.isSome) :
    traffic.Clears unruled task := by
  cases traffic with
  | late => exact absurd rfl hlate
  | single => exact h rfl
  | unbound | repeated => trivial

/-- What is known stays right where the rest of what is learnt is right. -/
theorem Stake.Holds.learn (h : known.Holds c task)
    (hkey : learnt.key = none ∨ learnt.key = known.key)
    (hcleared : learnt.cleared = true →
      known.cleared = true ∨ c.traffic.Clears c.unruled task)
    (hbound : learnt.bound = true → known.bound = true ∨ task.targetKey.isSome) :
    learnt.Holds c task := by
  refine ⟨fun hsingle key hmine => ?_, fun hlearnt => ?_, fun hlearnt => ?_⟩
  · rcases hkey with hspent | hsame
    · cases hspent.symm.trans hmine
    · exact h.key hsingle key (hsame.symm.trans hmine)
  · exact (hcleared hlearnt).elim h.cleared id
  · exact (hbound hlearnt).elim h.bound id

/-- A gentle call leaves the task as it is known. -/
theorem Call.Gentle.course {β : Type} {call : Call β} (hgentle : call.Gentle) {env : Environment}
    {answer : β} (hmoves : call.Moves env scene answer next) :
    next.task.course = scene.task.course := by
  rcases hmoves.cases with ⟨nextNumber, rfl⟩ | ⟨operation, rfl, _, rfl⟩
  · rfl
  · have hgentle : operation.Gentle := hgentle
    exact hgentle.onTask env.now scene.task

theorem Circumstances.Holds.gentle (hholds : c.Holds scene) {β : Type} {call : Call β}
    (hgentle : call.Gentle) {env : Environment} {answer : β}
    (hmoves : call.Moves env scene answer next) : c.Holds next := by
  have hcourse := hgentle.course hmoves
  have hallows := hholds.allows.congr hcourse
  obtain ⟨hgiven, htaskId, hkind, hrounded, _⟩ := hholds
  simp only [Task.course, Prod.mk.injEq] at hcourse
  obtain ⟨hid, hsameKind, _, _, hsa, _⟩ := hcourse
  have hworkflow : next.workflow.given = scene.workflow.given ∧
      c.traffic.Allows c.unruled next.workflow next.task := by
    rcases hmoves.cases with ⟨nextNumber, rfl⟩ | ⟨operation, rfl, _, rfl⟩
    · exact ⟨rfl, hallows⟩
    · exact ⟨operation.onWorkflow_given env.now scene.workflow,
        operation.onWorkflow_allows env.now hallows⟩
  rw [← hsa] at hrounded
  exact ⟨hworkflow.1.trans hgiven, hid.trans htaskId, hsameKind.trans hkind, hrounded,
    hworkflow.2⟩

/-- A gentle call is granted, and anything that its answer shows may be learnt from it. -/
theorem grants_gentle {β : Type} {call : Call β} {answer : β} (hgentle : call.Gentle)
    (hspends : learnt.key = none ∨ learnt.key = known.key)
    (hright : ∀ scene env next, c.Holds scene → known.Holds c scene.task →
      call.Moves env scene answer next → learnt.Holds c scene.task) :
    (harmless c).grants call answer known learnt := by
  intro scene env next hholds hknown hmoves
  have hcourse := hgentle.course hmoves
  have hallows := hholds.gentle hgentle hmoves
  simp only [Task.course, Prod.mk.injEq] at hcourse
  obtain ⟨_, _, htarget, hsnapshot, hsa, _⟩ := hcourse
  refine ⟨hallows, fun _ => hsa, ?_, hspends, fun key hkey => Or.inl (htarget ▸ hkey)⟩
  exact (hright scene env next hholds hknown hmoves).later
    (fun key hkey => htarget.trans hkey) (fun snapshot hbound => hsnapshot.trans hbound)
    fun _ key _ hkey => htarget ▸ hkey

/-- Nothing has to be learnt from an answer. -/
theorem grants_same {β : Type} {call : Call β} (answer : β) (hgentle : call.Gentle) :
    (harmless c).grants call answer known known :=
  grants_gentle hgentle (Or.inr rfl) fun _ _ _ _ hknown _ => hknown

/-- A guarded change of the task is refused, or made. -/
theorem grants_write {β : Type} {operation : Store.Operation β} {answer : β}
    {change : Timestamp → Task → Option Task}
    (hchange : ∀ now, operation.taskChange? now = some (c.origin.task.id, change now))
    (hspends : learnt.key = none ∨ learnt.key = known.key)
    (hrefused : ∀ scene now, c.Holds scene → known.Holds c scene.task →
      operation.Answers now scene answer → change now scene.task = none →
        learnt.Holds c scene.task)
    (hwrites : ∀ scene now after, c.Holds scene → known.Holds c scene.task →
      operation.Answers now scene answer → change now scene.task = some after →
        known.Yields c learnt scene { scene with task := after }) :
    (harmless c).grants (.store operation) answer known learnt := by
  rintro scene env _ hholds hknown ⟨hanswer, rfl⟩
  have hnamed := hchange env.now
  rw [← hholds.taskId] at hnamed
  rw [Scene.after_taskChange hnamed]
  cases hafter : change env.now scene.task with
  | none =>
    have hright := hrefused scene env.now hholds hknown hanswer hafter
    exact ⟨hholds, fun _ => rfl, hright, hspends, fun _ hkey => Or.inl hkey⟩
  | some after => exact hwrites scene env.now after hholds hknown hanswer hafter

/-- Binding the artifact that the caller brings. -/
theorem grants_setArtifact {name key : String} {saProgress : Option Nat}
    {answer : Except StoreError Bool} (hlate : c.traffic ≠ .late) (hkey : known.key = some key)
    (hunbound : c.traffic = .unbound →
      c.origin.workflow.shape.taskKind? = none ∧ saProgress = none)
    (hspent : learnt.key = none) (hbound : learnt.bound = true → known.bound = true)
    (hcleared : learnt.cleared = true → known.cleared = true ∨ answer = .ok true) :
    (harmless c).grants (.store (.setArtifact c.origin.task.id name key saProgress)) answer known
      learnt := by
  refine grants_write (fun _ => rfl) (Or.inl hspent) ?_ ?_
  · intro scene now hholds hknown hanswer hnone
    refine hknown.learn (Or.inl hspent) (fun hlearnt => ?_) fun hlearnt => Or.inl (hbound hlearnt)
    refine (hcleared hlearnt).imp_right fun hdone => ?_
    have hfalse := (hanswer hholds.taskId.symm).symm.trans hdone
    rw [hnone] at hfalse
    cases hfalse
  · intro scene now after hholds hknown _ hafter
    obtain ⟨hsame, rfl⟩ := Task.withArtifact?_eq_some hafter
    have hshape := Workflow.shape_of_given hholds.given
    have hallows := hholds.allows
    -- A run that has ended has been ended after its artifact was bound, by somebody else.
    have hkept : scene.task.sa.status.isTerminal = true →
        { scene.task.sa with progress := saProgress.getD scene.task.sa.progress } =
          scene.task.sa := by
      intro hterminal
      cases htraffic : c.traffic with
      | late => exact absurd htraffic hlate
      | unbound =>
        rw [(hunbound htraffic).2]
        rfl
      | single =>
        rw [htraffic] at hallows
        obtain ⟨bound, hbound⟩ := Option.isSome_iff_exists.mp (hallows.saEnded hterminal).1
        obtain rfl := hsame bound hbound
        exact absurd hbound (hknown.key htraffic bound hkey)
      | repeated =>
        rw [htraffic] at hallows
        cases hallows.1.symm.trans hterminal
    refine ⟨⟨hholds.given, hholds.taskId, hholds.kind, ?_, ?_⟩, hkept, ⟨?_, ?_, fun _ => rfl⟩,
      Or.inl hspent, fun bound hbound => Or.inr (hbound ▸ hkey)⟩
    · intro hterminal
      have hended : scene.task.sa.status.isTerminal = true := hterminal
      exact (congrArg SaRun.progress (hkept hended)).trans (hholds.rounded hended)
    · cases htraffic : c.traffic with
      | late => exact absurd htraffic hlate
      | unbound => exact Or.inr (by rw [hshape, (hunbound htraffic).1])
      | single =>
        rw [htraffic] at hallows
        exact ⟨fun _ => rfl, hallows.started, fun hended => ⟨rfl, (hallows.saEnded hended).2⟩,
          fun _ _ => rfl⟩
      | repeated =>
        rw [htraffic] at hallows
        exact hallows
    · intro _ key hmine
      cases hspent.symm.trans hmine
    · exact fun _ => Traffic.clears hlate fun _ _ => rfl

/-- With rules, no static analysis has ended before its snapshot is bound. -/
theorem Circumstances.Holds.sa_open (hholds : c.Holds scene)
    (hlate : c.traffic ≠ .late) (hunbound : c.traffic ≠ .unbound) (hruled : c.unruled = false)
    (hnone : ¬ scene.task.snapshot.isSome) : scene.task.sa.status.isTerminal = false := by
  have hallows := hholds.allows
  rw [← Bool.not_eq_true]
  intro hterminal
  cases htraffic : c.traffic with
  | late => exact hlate htraffic
  | unbound => exact hunbound htraffic
  | single =>
    rw [htraffic] at hallows
    rcases (hallows.saEnded hterminal).2 with hsome | hunruled
    · exact hnone hsome
    · cases hruled.symm.trans hunruled
  | repeated =>
    rw [htraffic] at hallows
    cases hallows.1.symm.trans hterminal

/-- A task that is analysed and has an artifact is not one to which nothing is bound. -/
theorem Circumstances.Holds.not_unbound {kind : Task.Kind}
    (hholds : c.Holds scene) (hkind : c.origin.workflow.shape.taskKind? = some kind)
    (hsome : scene.task.targetKey.isSome) : c.traffic ≠ .unbound := by
  intro hunbound
  have hallows := hholds.allows
  rw [hunbound] at hallows
  rcases hallows with htarget | hshapeless
  · rw [htarget] at hsome
    cases hsome
  · rw [Workflow.shape_of_given hholds.given, hkind] at hshapeless
    cases hshapeless

/-- Binding the snapshot, and starting the engine runs. -/
theorem grants_bindAnalysis {binding : AnalysisBinding} (answer : Bool) (hlate : c.traffic ≠ .late)
    (hunbound : c.traffic ≠ .unbound) (hruled : c.unruled = false) (hbound : known.bound = true)
    (hsa : binding.sa.status.isTerminal = false)
    (hkind : c.origin.task.kind = some binding.kind) :
    (harmless c).grants (.store (.bindAnalysis c.origin.task.id binding)) answer known known := by
  refine grants_write (fun _ => rfl) (Or.inr rfl) (fun _ _ _ hknown _ _ => hknown) ?_
  intro scene now after hholds hknown _ hafter
  obtain ⟨hnone, rfl⟩ := Task.withAnalysis?_eq_some hafter
  have hopen := hholds.sa_open hlate hunbound hruled (by simp [hnone])
  refine ⟨⟨hholds.given, hholds.taskId, hkind.symm, ?_, ?_⟩,
    fun hterminal => absurd hterminal (by simp [hopen]), ?_, Or.inr rfl,
    fun _ hkey => Or.inl hkey⟩
  · intro hterminal
    cases hsa.symm.trans hterminal
  · cases htraffic : c.traffic with
    | late => exact absurd htraffic hlate
    | unbound => exact absurd htraffic hunbound
    | single =>
      refine ⟨fun _ => hknown.bound hbound, fun _ => rfl, fun hterminal => ?_,
        fun _ hunruled => ?_⟩
      · cases hsa.symm.trans hterminal
      · cases hruled.symm.trans hunruled
    | repeated => exact ⟨hsa, hruled⟩
  · refine hknown.later (fun _ hkey => hkey) ?_ fun _ _ _ hkey => hkey
    intro snapshot hsnapshot
    cases hnone.symm.trans hsnapshot

/-- Ending the static analysis. -/
theorem grants_moveSa {expected : RunStatus} {run : SaRun} {answer : Bool}
    (hopen : expected.isTerminal = false) (hended : run.status.isTerminal = true)
    (hrounded : run.progress = finishedProgress) (hrepeated : c.traffic ≠ .repeated)
    (hsingle : c.traffic = .single →
      expected = .running ∨ c.unruled = true ∧ known.cleared = true)
    (hkey : learnt.key = known.key) (hbound : learnt.bound = true → known.bound = true)
    (hcleared : learnt.cleared = true → known.cleared = true ∨ answer = true ∧ c.traffic ≠ .late) :
    (harmless c).grants (.store (.moveSa c.origin.task.id expected run)) answer known learnt := by
  refine grants_write (fun _ => rfl) (Or.inr hkey) ?_ ?_
  · intro scene now hholds hknown hanswer hnone
    refine hknown.learn (Or.inr hkey) (fun hlearnt => ?_) fun hlearnt => Or.inl (hbound hlearnt)
    refine (hcleared hlearnt).imp_right fun hdone => ?_
    have hfalse := (hanswer hholds.taskId.symm).symm.trans hdone.1
    rw [hnone] at hfalse
    cases hfalse
  · intro scene now after hholds hknown _ hafter
    obtain ⟨hstatus, rfl⟩ := Task.withSa?_eq_some hafter
    have hallows := hholds.allows
    -- The artifact has been bound before the run can end.
    have htimely : c.traffic = .single → scene.task.targetKey.isSome ∧
        (scene.task.snapshot.isSome ∨ c.unruled = true) := by
      intro htraffic
      rw [htraffic] at hallows
      rcases hsingle htraffic with rfl | ⟨hunruled, hknows⟩
      · have hstarted := hallows.started (Or.inl hstatus)
        exact ⟨hallows.target hstarted, Or.inl hstarted⟩
      · have hclears := hknown.cleared hknows
        rw [htraffic] at hclears
        exact ⟨hclears hunruled, Or.inr hunruled⟩
    have hright : learnt.Holds c scene.task :=
      hknown.learn (Or.inr hkey) (fun hlearnt => (hcleared hlearnt).imp_right fun hdone =>
        Traffic.clears hdone.2 fun htraffic _ => (htimely htraffic).1)
        fun hlearnt => Or.inl (hbound hlearnt)
    refine ⟨⟨hholds.given, hholds.taskId, hholds.kind, fun _ => hrounded, ?_⟩, ?_, ?_,
      Or.inr hkey, fun _ hkey => Or.inl hkey⟩
    · cases htraffic : c.traffic with
      | late | unbound =>
        rw [htraffic] at hallows
        exact hallows
      | single =>
        rw [htraffic] at hallows
        refine ⟨hallows.target, ?_, fun _ => htimely htraffic, hallows.mlEnded⟩
        rintro (hrunning | hrunning)
        · have hsame : run.status = .running := hrunning
          rw [hsame] at hended
          cases hended
        · exact hallows.started (Or.inr hrunning)
      | repeated => exact absurd htraffic hrepeated
    · intro hterminal
      rw [hstatus, hopen] at hterminal
      cases hterminal
    · exact hright.later (fun _ hkey => hkey) (fun _ hbound => hbound) fun _ _ _ hkey => hkey

/-- Ending the machine-learning run. -/
theorem grants_moveMl {expected : RunStatus} {run : MlRun} {answer : Bool}
    (hended : run.status.isTerminal = true)
    (hsingle : c.traffic = .single → c.unruled = true →
      expected = .running ∨ known.cleared = true)
    (hkey : learnt.key = known.key) (hbound : learnt.bound = true → known.bound = true)
    (hcleared : learnt.cleared = true → known.cleared = true ∨ answer = true ∧ c.traffic ≠ .late) :
    (harmless c).grants (.store (.moveMl c.origin.task.id expected run)) answer known learnt := by
  refine grants_write (fun _ => rfl) (Or.inr hkey) ?_ ?_
  · intro scene now hholds hknown hanswer hnone
    refine hknown.learn (Or.inr hkey) (fun hlearnt => ?_) fun hlearnt => Or.inl (hbound hlearnt)
    refine (hcleared hlearnt).imp_right fun hdone => ?_
    have hfalse := (hanswer hholds.taskId.symm).symm.trans hdone.1
    rw [hnone] at hfalse
    cases hfalse
  · intro scene now after hholds hknown _ hafter
    obtain ⟨hstatus, rfl⟩ := Task.withMl?_eq_some hafter
    have hallows := hholds.allows
    have htimely : c.traffic = .single → c.unruled = true → scene.task.targetKey.isSome := by
      intro htraffic hunruled
      rw [htraffic] at hallows
      rcases hsingle htraffic hunruled with rfl | hknows
      · exact hallows.target (hallows.started (Or.inr hstatus))
      · have hclears := hknown.cleared hknows
        rw [htraffic] at hclears
        exact hclears hunruled
    have hright : learnt.Holds c scene.task :=
      hknown.learn (Or.inr hkey) (fun hlearnt => (hcleared hlearnt).imp_right fun hdone =>
        Traffic.clears hdone.2 htimely) fun hlearnt => Or.inl (hbound hlearnt)
    refine ⟨⟨hholds.given, hholds.taskId, hholds.kind, hholds.rounded, ?_⟩, fun _ => rfl, ?_,
      Or.inr hkey, fun _ hkey => Or.inl hkey⟩
    · cases htraffic : c.traffic with
      | late | unbound | repeated =>
        rw [htraffic] at hallows
        exact hallows
      | single =>
        rw [htraffic] at hallows
        refine ⟨hallows.target, ?_, hallows.saEnded, fun _ => htimely htraffic⟩
        rintro (hrunning | hrunning)
        · exact hallows.started (Or.inl hrunning)
        · have hsame : run.status = .running := hrunning
          rw [hsame] at hended
          cases hended
    · exact hright.later (fun _ hkey => hkey) (fun _ hbound => hbound) fun _ _ _ hkey => hkey

end Grants

/-! ### Deliveries on their way at once -/

section Sharing

variable {c : Circumstances} {kept : Option SaRun} {known learnt : Stake} {scene next : Scene}

theorem Stake.Yields.spares (hyields : known.Yields c learnt scene next) {β : Type}
    {call : Call β} {env : Environment} {answer : β} (hmoves : call.Moves env scene answer next)
    {other : Stake} (hother : other.Holds c scene.task)
    (hapart : c.traffic = .single → ∀ key, known.key = some key → other.key ≠ some key) :
    other.Holds c next.task := by
  have hbinds := hyields.binds
  refine hother.later ?_ ?_ ?_
  · rcases hmoves.cases with ⟨nextNumber, rfl⟩ | ⟨operation, rfl, _, rfl⟩
    · exact fun _ hkey => hkey
    · exact fun _ hkey => operation.onTask_targetKey env.now hkey
  · rcases hmoves.cases with ⟨nextNumber, rfl⟩ | ⟨operation, rfl, _, rfl⟩
    · exact fun _ hbound => hbound
    · exact fun _ hbound => operation.onTask_snapshot env.now hbound
  · intro hsingle key hmine hbound
    rcases hbinds key hbound with hbefore | hcaller
    · exact hbefore
    · exact absurd hmine (hapart hsingle key hcaller)

/-- What the deliveries have in common: a scene on which each of them is right, and no two of
them with one artifact where each is brought once. A run that has ended is the one that is kept,
if one is kept. -/
structure Sharing (c : Circumstances) (kept : Option SaRun) (history : List Event)
    (system : System) (stakes : List Stake) : Prop where
  unruled : system.store.unruled c.origin.workflow.templateId = c.unruled
  scene : ∃ scene, system.Shows scene ∧ c.Holds scene ∧
    (∀ stake ∈ stakes, stake.Holds c scene.task) ∧
      ∀ run, kept = some run → run.status.isTerminal = true ∧ scene.task.sa = run
  apart : c.traffic = .single → ∀ (i j : Nat) first second, stakes[i]? = some first →
    stakes[j]? = some second → ∀ key, first.key = some key → second.key = some key → i = j

theorem harmless_sound (c : Circumstances) : (harmless c).Sound := by
  rintro β call env system known learnt ⟨hunruled, scene, hshows, hholds, hknown⟩ hgrants
  obtain ⟨next, hmoves, hnext⟩ := hshows.perform env call
  have hyields := hgrants scene env next hholds hknown hmoves
  refine ⟨?_, next, hnext, hyields.holds, hyields.right⟩
  exact call.preserves_store env
    (fun store => store.unruled c.origin.workflow.templateId = c.unruled)
    (fun operation now store hsame => (congrFun (operation.unruled now store) _).trans hsame)
    hunruled

theorem harmless_upholds (c : Circumstances) (kept : Option SaRun) :
    (harmless c).Upholds (Sharing c kept) where
  holds := by
    rintro _ system stakes known ⟨hunruled, ⟨scene, hshows, hholds, hstakes, _⟩, _⟩ hmember
    exact ⟨hunruled, scene, hshows, hholds, hstakes known hmember⟩
  steps := by
    rintro β call env history system stakes index known learnt
      ⟨hunruled, ⟨scene, hshows, hholds, hstakes, hkept⟩, hapart⟩ hknown hgrants
    have hmine := hstakes known (List.mem_of_getElem? hknown)
    obtain ⟨next, hmoves, hnext⟩ := hshows.perform env call
    have hyields := hgrants scene env next hholds hmine hmoves
    have hafter := (harmless_sound c call env system known learnt
      ⟨hunruled, scene, hshows, hholds, hmine⟩ hgrants).1
    refine ⟨hafter, ⟨next, hnext, hyields.holds, ?_, ?_⟩, ?_⟩
    · intro stake hstake
      obtain ⟨position, hposition⟩ := List.mem_iff_getElem?.mp hstake
      rcases getElem?_set_cases hposition with ⟨_, rfl⟩ | ⟨hne, hother⟩
      · exact hyields.right
      · refine hyields.spares hmoves (hstakes stake (List.mem_of_getElem? hother)) ?_
        intro hsingle key hcaller htheirs
        exact hne (hapart hsingle position index stake known hother hknown key htheirs hcaller)
    · intro run hrun
      obtain ⟨hterminal, hsame⟩ := hkept run hrun
      exact ⟨hterminal, (hyields.kept (hsame ▸ hterminal)).trans hsame⟩
    · -- The caller can only have lost its artifact.
      have hold : ∀ key, learnt.key = some key → known.key = some key := by
        intro key hkey
        rcases hyields.spends with hspent | hsame
        · cases hspent.symm.trans hkey
        · exact hsame.symm.trans hkey
      intro hsingle i j first second hfirst hsecond key hone htwo
      rcases getElem?_set_cases hfirst with ⟨rfl, rfl⟩ | ⟨_, hfirst'⟩
      · rcases getElem?_set_cases hsecond with ⟨rfl, _⟩ | ⟨_, hsecond'⟩
        · rfl
        · exact hapart hsingle i j known second hknown hsecond' key (hold key hone) htwo
      · rcases getElem?_set_cases hsecond with ⟨rfl, rfl⟩ | ⟨_, hsecond'⟩
        · exact hapart hsingle i j first known hfirst' hknown key hone (hold key htwo)
        · exact hapart hsingle i j first second hfirst' hsecond' key hone htwo

end Sharing

end ScanFlow
