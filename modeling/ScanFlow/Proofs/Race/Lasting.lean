import ScanFlow.Proofs.Race.Harmless

/-!
A static analysis that has ended keeps its record, unless an artifact comes after it.

Where nobody can end the analysis before the artifact is bound, or bind an artifact after it, the
traffic is harmless, and the record of an analysis that has ended lasts through every order of
calls.
-/

namespace ScanFlow

def Paired (messages : List Completion) : Prop :=
  ∃ (i j : Nat) (first second : Completion) (key : String), i ≠ j ∧
    messages[i]? = some first ∧ messages[j]? = some second ∧
      first.key? = some key ∧ second.key? = some key

/-- Of messages that are delivered at once while the compiler is awaited, some bring an artifact,
and some can end the static analysis before another one brings its artifact. -/
inductive Overwritable (unruled : Bool) (workflow : Workflow) (messages : List Completion) :
    Prop where
  /-- The static analysis is reported to have failed. -/
  | failed {artifact : Completion} {key : String} {answer : SaFinished}
      (hartifact : artifact ∈ messages) (hkey : artifact.key? = some key)
      (hanswer : .sa answer ∈ messages)
      (hfailure : (Completion.sa answer).ReportsFailure workflow)
  /-- The other engine is reported to have failed, and there are no rules to go on with. -/
  | missed {artifact : Completion} {key : String} {answer : MlFinished}
      (hunruled : unruled = true) (hartifact : artifact ∈ messages)
      (hkey : artifact.key? = some key) (hanswer : .ml answer ∈ messages)
      (hfailure : (Completion.ml answer).ReportsFailure workflow)
  /-- The artifact is brought twice, and there are no rules to go on with. -/
  | unruled (hunruled : unruled = true) (hpaired : Paired messages)
  /-- The artifact is brought twice, and the static analysis is answered. -/
  | answered {answer : SaFinished} (hpaired : Paired messages) (hanswer : .sa answer ∈ messages)
      (htask : answer.taskId = workflow.taskId)

/-- One message alone cannot do both. -/
theorem not_overwritable_single {unruled : Bool} {workflow : Workflow} (message : Completion) :
    ¬ Overwritable unruled workflow [message] := by
  have hpaired : ¬ Paired [message] := by
    rintro ⟨i, j, first, second, key, hne, hfirst, hsecond, _⟩
    have hi := (List.getElem?_eq_some_iff.mp hfirst).1
    have hj := (List.getElem?_eq_some_iff.mp hsecond).1
    simp only [List.length_singleton] at hi hj
    omega
  intro h
  cases h with
  | failed hartifact hkey hanswer =>
    obtain rfl := List.mem_singleton.mp hartifact
    obtain rfl := List.mem_singleton.mp hanswer
    cases hkey
  | missed _ hartifact hkey hanswer =>
    obtain rfl := List.mem_singleton.mp hartifact
    obtain rfl := List.mem_singleton.mp hanswer
    cases hkey
  | unruled _ h => exact hpaired h
  | answered h => exact hpaired h

/-- Messages that report no failure cannot do it with one artifact. -/
theorem not_overwritable_of_success {unruled : Bool} {workflow : Workflow}
    {messages : List Completion} (honce : ¬ Paired messages)
    (hsuccess : ∀ message ∈ messages, ¬ message.ReportsFailure workflow) :
    ¬ Overwritable unruled workflow messages := by
  intro h
  cases h with
  | failed _ _ hanswer hfailure => exact hsuccess _ hanswer hfailure
  | missed _ _ _ hanswer hfailure => exact hsuccess _ hanswer hfailure
  | unruled _ h => exact honce h
  | answered h => exact honce h

def System.saRun? (system : System) (taskId : Uuid) : Option SaRun :=
  (system.store.tasks.get? taskId).map Task.sa

/-- In every order of calls, once the static analysis of the task has ended, its progress is full,
and its record stays as it is. -/
def Flight.SaLasts (flight : Flight) (taskId : Uuid) : Prop :=
  ∀ (first rest : List (Nat × Environment)) (run : SaRun),
    (flight.fly first).system.saRun? taskId = some run → run.status.isTerminal = true →
      run.progress = finishedProgress ∧
        (flight.fly (first ++ rest)).system.saRun? taskId = some run

/-! ### Harmless traffic -/

structure Circumstances.Suit (c : Circumstances) (messages : List Completion) : Prop where
  fit : c.Fit
  holds : c.Holds c.origin
  admits : ∀ message ∈ messages, c.traffic.Admits c.unruled c.origin.workflow message
  apart : c.traffic = .single → ¬ Paired messages
  target : c.traffic = .single → c.origin.task.targetKey = none

def Spared (unruled : Bool) (workflow : Workflow) (messages : List Completion) : Prop :=
  ¬ (workflow.status = .running ∧ workflow.nextStage? = some .compile ∧
    workflow.shape.runsSa = true ∧ Overwritable unruled workflow messages)

/-- Nothing has been started yet. -/
theorem timely_of_pending (unruled : Bool) {task : Task} (hsnapshot : task.snapshot = none)
    (hsa : task.sa.status = .pending) (hml : task.ml.status = .pending) :
    task.Timely unruled := by
  refine ⟨?_, ?_, ?_, ?_⟩
  · rw [hsnapshot]
    nofun
  · rw [hsa, hml]
    nofun
  · rw [hsa]
    nofun
  · rw [hml]
    nofun

/-- Messages that cannot overwrite what has ended are harmless traffic. -/
theorem exists_traffic {scene : Scene} (hlinked : scene.workflow.taskId = scene.task.id)
    (hmatched : Matched scene.workflow scene.task) (hphase : Phase scene.workflow scene.task)
    (hrounded : scene.task.sa.status.isTerminal = true →
      scene.task.sa.progress = finishedProgress)
    (unruled : Bool) {messages : List Completion}
    (hspared : Spared unruled scene.workflow messages) :
    ∃ traffic, Circumstances.Suit ⟨scene, traffic, unruled⟩ messages := by
  have hsuit : ∀ traffic : Traffic, traffic.Allows unruled scene.workflow scene.task →
      (∀ message ∈ messages, traffic.Admits unruled scene.workflow message) →
      (traffic = .single → ¬ Paired messages ∧ scene.task.targetKey = none) →
        ∃ traffic, Circumstances.Suit ⟨scene, traffic, unruled⟩ messages := by
    intro traffic hallows hadmits hsingle
    exact ⟨traffic, ⟨hmatched, hlinked⟩, ⟨rfl, rfl, rfl, hrounded, hallows⟩, hadmits,
      fun htraffic => (hsingle htraffic).1, fun htraffic => (hsingle htraffic).2⟩
  by_cases hwaiting : scene.workflow.status = .running ∧ scene.workflow.nextStage? = some .compile
  swap
  · refine hsuit .late ?_ (fun _ _ => trivial) nofun
    intro hrunning
    refine ⟨fun hstage => hwaiting ⟨hrunning, hstage⟩, ?_⟩
    cases hphase with
    | compiling h =>
      exact absurd ⟨hrunning, Orchestrator.nextStage?_of_compiling hmatched.steps h⟩ hwaiting
    | analysing h => exact h.dispatched.snapshot
    | completed h => cases h.complete.symm.trans hrunning
    | aborted h => cases h.symm.trans hrunning
  have hcompiling := Orchestrator.compiling_of_stage hmatched hphase hwaiting.1 hwaiting.2
  by_cases hruns : scene.workflow.shape.runsSa = true
  swap
  · have hkind : scene.workflow.shape.taskKind? = none := by
      have hcompile := hcompiling.shape
      revert hruns hcompile
      cases scene.workflow.shape <;> decide
    exact hsuit .unbound (Or.inr hkind) (fun _ _ => Or.inl hkind) nofun
  have hsafe : ¬ Overwritable unruled scene.workflow messages :=
    fun h => hspared ⟨hwaiting.1, hwaiting.2, hruns, h⟩
  by_cases hpaired : Paired messages
  · -- Nothing may end the analysis at all.
    refine hsuit .repeated ⟨by rw [hcompiling.sa]; rfl, ?_⟩ ?_ nofun
    · rw [← Bool.not_eq_true]
      exact fun hunruled => hsafe (.unruled hunruled hpaired)
    · intro message member
      cases message with
      | sa answer => exact fun htask => hsafe (.answered hpaired member htask)
      | compile | ml => trivial
  by_cases hbrings : ∃ artifact ∈ messages, ∃ key, artifact.key? = some key
  · obtain ⟨artifact, hartifact, key, hkey⟩ := hbrings
    have htimely := timely_of_pending unruled hcompiling.snapshot hcompiling.sa hcompiling.ml
    refine hsuit .single htimely ?_ fun _ => ⟨hpaired, hcompiling.target⟩
    intro message member
    cases message with
    | compile => trivial
    | sa answer => exact fun hfailure => hsafe (.failed hartifact hkey member hfailure)
    | ml answer =>
      exact fun hunruled hfailure => hsafe (.missed hunruled hartifact hkey member hfailure)
  · refine hsuit .unbound (Or.inl hcompiling.target) ?_ nofun
    intro message member
    cases hkey : message.key? with
    | none => exact Or.inr hkey
    | some key => exact absurd ⟨message, member, key, hkey⟩ hbrings

/-! ### Whole services -/

/-- A workflow with an analysis has a template, and its static analysis has its full progress
when it has ended. -/
structure Regular (workflow : Workflow) (task : Task) : Prop where
  template : workflow.shape.requiresRules = true → workflow.templateId.isSome
  rounded : task.sa.status.isTerminal = true → task.sa.progress = finishedProgress

namespace System

open Orchestrator

variable {o : Orchestrator} {start system next : System} {id : Uuid}

def Regular (system : System) : Prop :=
  ∀ id workflow task, system.store.workflows.get? id = some workflow →
    system.store.tasks.get? workflow.taskId = some task → ScanFlow.Regular workflow task

theorem Regular.of_standing (hregular : system.Regular)
    (hworkflows : ∀ id, next.store.workflows.get? id = system.store.workflows.get? id)
    (htasks : ∀ id, (next.store.tasks.get? id).map Task.standing =
      (system.store.tasks.get? id).map Task.standing) : next.Regular := by
  intro id workflow task hworkflow htask
  rw [hworkflows] at hworkflow
  have hsame := htasks workflow.taskId
  rw [htask, Option.map_some] at hsame
  obtain ⟨before, hbefore, hstanding⟩ := Option.map_eq_some_iff.mp hsame.symm
  obtain ⟨htemplate, hrounded⟩ := hregular id workflow before hworkflow hbefore
  refine ⟨htemplate, ?_⟩
  have hsa : before.sa = task.sa := congrArg (fun standing => standing.2.2.2.1) hstanding
  rw [← hsa]
  exact hrounded

theorem Regular.of_same_store (hregular : system.Regular) (hstore : next.store = system.store) :
    next.Regular := by
  unfold Regular at hregular ⊢
  rwa [hstore]

theorem Regular.runs_mild {α : Type} {program : Program α} {outcome : Except ServiceError α}
    (hregular : system.Regular) (hkeyed : system.store.Keyed)
    (hruns : program.Runs system outcome next) (hmild : program.Only Call.Mild) :
    next.Regular := by
  refine (hruns.preserves (fun system => system.store.Keyed ∧ system.Regular) ?_ hmild
    ⟨hkeyed, hregular⟩).2
  rintro β call env system hmild ⟨hkeyed, hregular⟩
  obtain ⟨hworkflows, htasks⟩ := hmild.stored env hkeyed
  exact ⟨call.keyed_perform env hkeyed, hregular.of_standing hworkflows htasks⟩

/-- A system stays regular if one workflow does and all others are spared. -/
theorem Regular.of_spared {scene reached : Scene} (hregular : system.Regular)
    (hspares : scene.Spares system next) (hshows : next.Shows reached)
    (hgiven : reached.workflow.given = scene.workflow.given)
    (hreached : ScanFlow.Regular reached.workflow reached.task)
    (hown : ∀ id workflow, system.store.workflows.get? id = some workflow →
      id ≠ scene.workflow.id → workflow.taskId ≠ scene.task.id) : next.Regular := by
  intro id workflow task hworkflow htask
  have hid : reached.workflow.id = scene.workflow.id :=
    Workflow.id_of_given hgiven
  by_cases hsame : id = scene.workflow.id
  · rw [hsame, ← hid, hshows.workflow, Option.some.injEq] at hworkflow
    subst hworkflow
    rw [hshows.linked, hshows.task, Option.some.injEq] at htask
    exact htask ▸ hreached
  · rw [hspares.workflows id hsame] at hworkflow
    rw [hspares.tasks _ (hown id workflow hworkflow hsame)] at htask
    exact hregular id workflow task hworkflow htask

/-- What harmless programs lead to is regular. -/
theorem regular_of_harmless {c : Circumstances} {known : Stake}
    (htemplate : c.origin.workflow.shape.requiresRules = true →
      c.origin.workflow.templateId.isSome)
    (hholds : (harmless c).holds known next) :
    ∃ reached, next.Shows reached ∧ reached.workflow.given = c.origin.workflow.given ∧
      ScanFlow.Regular reached.workflow reached.task := by
  obtain ⟨_, reached, hshows, hreached, _⟩ := hholds
  refine ⟨reached, hshows, hreached.given, ?_, hreached.rounded⟩
  have hshape : reached.workflow.shape = c.origin.workflow.shape :=
    Workflow.shape_of_given hreached.given
  have hsame : reached.workflow.templateId = c.origin.workflow.templateId :=
    Workflow.templateId_of_given hreached.given
  rw [hshape, hsame]
  exact htemplate

theorem Regular.created {before added dispatched : System} {workflow : Workflow} {task : Task}
    (hregular : before.Regular) (hsound : before.Sound)
    (hcreated : Created before workflow task added) {outcome : Except ServiceError Unit}
    (hruns : (o.dispatchFirst workflow).Runs added outcome dispatched) : dispatched.Regular := by
  obtain ⟨scene, rfl, rfl, hshows, hspares⟩ := hcreated.exists_scene
  have hfresh := hcreated.fresh
  obtain ⟨_, _, _, _, _, hrestSpares, _⟩ :=
    (dispatchFirst_alone scene hcreated.linked hcreated.matched hfresh).runs hshows hruns
  -- A new workflow is dispatched with its artifact, or to the compiler.
  let c : Circumstances := ⟨scene, .single, added.store.unruled scene.workflow.templateId⟩
  let known : Stake := ⟨none, !scene.workflow.shape.runsCompile, false⟩
  have htimely := timely_of_pending c.unruled hfresh.snapshot hfresh.sa hfresh.ml
  have hholds : (harmless c).holds known added := by
    refine ⟨rfl, scene, hshows, ⟨rfl, rfl, rfl, ?_, htimely⟩, ?_⟩
    · rw [hfresh.sa]
      nofun
    · refine ⟨fun _ _ hkey => ?_, fun hcleared _ => ?_, nofun⟩
      · cases hkey
      · exact hcreated.compiled (by simpa [known] using hcleared)
  have hanalysis : scene.workflow.nextStage? = some .analysis → known.cleared = true := by
    intro hstage
    unfold Workflow.nextStage? at hstage
    split at hstage
    · cases hstage
    · rw [hfresh.progress] at hstage
      simp only [known]
      revert hstage
      cases scene.workflow.shape <;> decide
  have hhonors : (o.dispatchFirst scene.workflow).Honors (harmless c) known fun _ _ => True :=
    dispatchFirst_harmless ⟨hcreated.matched, hcreated.linked⟩ rfl hanalysis
  obtain ⟨learnt, hlearnt, _⟩ := hhonors.runs (harmless_sound c) hholds hruns
  obtain ⟨reached, hreached, hgiven, hright⟩ := regular_of_harmless hcreated.template hlearnt
  refine hregular.of_spared (hspares.trans hrestSpares) hreached hgiven hright ?_
  intro id other hfound _ heq
  obtain ⟨found, hstored, _⟩ := hsound.phase id other hfound
  rw [heq, hcreated.new] at hstored
  cases hstored

theorem Regular.process {message : Completion} {outcome : Except ServiceError Unit}
    (hregular : system.Regular) (hsound : system.Sound)
    (hruns : (o.process message).Runs system outcome next) : next.Regular := by
  rcases hsound.process_spares hruns with rfl | ⟨scene, hshows, hid, hspares⟩
  · exact hregular
  obtain ⟨task, htask, hmatched, hphase, _⟩ := hsound.phase _ _ hshows.workflow
  have hsame : task = scene.task := by
    rw [hshows.linked, hshows.task, Option.some.injEq] at htask
    exact htask.symm
  subst hsame
  obtain ⟨htemplate, hrounded⟩ := hregular _ _ _ hshows.workflow (hshows.linked ▸ hshows.task)
  have hspared : Spared (system.store.unruled scene.workflow.templateId) scene.workflow [message] :=
    fun h => not_overwritable_single message h.2.2.2
  obtain ⟨traffic, hsuit⟩ := exists_traffic hshows.linked hmatched hphase hrounded _ hspared
  let c : Circumstances :=
    ⟨scene, traffic, system.store.unruled scene.workflow.templateId⟩
  have hholds : (harmless c).holds ⟨message.key?, false, false⟩ system := by
    refine ⟨rfl, scene, hshows, hsuit.holds, ?_, nofun, nofun⟩
    intro hsingle key _ hbound
    rw [hsuit.target hsingle] at hbound
    cases hbound
  obtain ⟨learnt, hlearnt, _⟩ :=
    (process_harmless hsuit.fit hid.symm (hsuit.admits message List.mem_cons_self) rfl).runs
      (harmless_sound c) hholds hruns
  obtain ⟨reached, hreached, hgiven, hright⟩ := regular_of_harmless htemplate hlearnt
  refine hregular.of_spared hspares hreached hgiven hright ?_
  intro id other hfound hne heq
  exact hne (hsound.apart id _ other scene.workflow hfound hshows.workflow
    (heq.trans hshows.linked.symm))

theorem Regular.service (hregular : system.Regular) (hsound : system.Sound)
    (hservice : Service o system next) : next.Regular := by
  have hmild : ∀ {α : Type} {program : Program α} {outcome : Except ServiceError α},
      program.Runs system outcome next → program.Only Call.Mild → next.Regular :=
    fun hruns honly => hregular.runs_mild hsound.keyed hruns honly
  cases hservice with
  | registerCode upload hruns => exact hmild hruns (registerCode_mild upload)
  | start submission hruns =>
    cases start_submits hsound.keyed hruns with
    | refused h => exact hregular.of_same_store h.store
    | created hbefore hcreated hdispatch =>
      have hsoundBefore := hsound.of_same_store hbefore.store
      exact (hregular.of_same_store hbefore.store).created hsoundBefore hcreated hdispatch
  | process _ hruns => exact hregular.process hsound hruns
  | remerge taskId hruns => exact hmild hruns (remerge_mild taskId)
  | audit taskId findingId request hruns =>
    exact hmild hruns (auditFinding_mild taskId findingId request)
  | putRule rule => exact hregular
  | putTemplate template => exact hregular

theorem Initial.regular (hinitial : start.Initial) (hreach : Reaches o start system) :
    system.Regular := by
  induction hreach with
  | refl =>
    intro id workflow task hstored
    rw [hinitial.workflows, SortedMap.get?_empty] at hstored
    cases hstored
  | step hbefore hservice ih => exact ih.service (hinitial.reaches hbefore).1 hservice

/-! ### Deliveries on their way -/

theorem Shows.saRun? {scene : Scene} (hshows : system.Shows scene) :
    system.saRun? scene.task.id = some scene.task.sa := by
  rw [System.saRun?, hshows.task, Option.map_some]

/-- Deliveries that have made no call yet. -/
theorem harmless_launch {c : Circumstances} {messages : List Completion}
    (hsuit : c.Suit messages) (hshows : start.Shows c.origin)
    (hunruled : start.store.unruled c.origin.workflow.templateId = c.unruled)
    (hworkflow : ∀ message ∈ messages, message.workflowId = c.origin.workflow.id) :
    (o.delivering start messages).Bound (harmless c) (Sharing c none) (fun _ => True)
      (messages.map fun message => ⟨message.key?, false, false⟩) where
  pool := by
    refine ⟨hunruled, ⟨c.origin, hshows, hsuit.holds, ?_, nofun⟩, ?_⟩
    · intro stake hstake
      obtain ⟨message, _, rfl⟩ := List.mem_map.mp hstake
      refine ⟨fun hsingle key _ hbound => ?_, nofun, nofun⟩
      rw [hsuit.target hsingle] at hbound
      cases hbound
    · intro hsingle i j first second hfirst hsecond key hone htwo
      rw [List.getElem?_map] at hfirst hsecond
      obtain ⟨message, hmessage, rfl⟩ := Option.map_eq_some_iff.mp hfirst
      obtain ⟨rival, hrival, rfl⟩ := Option.map_eq_some_iff.mp hsecond
      by_contra hne
      exact hsuit.apart hsingle ⟨i, j, message, rival, key, hne, hmessage, hrival, hone, htwo⟩
  length := by simp [delivering, Flight.launch]
  honors := by
    intro index program known hprogram hknown
    simp only [delivering, Flight.launch] at hprogram
    rw [List.getElem?_map] at hprogram hknown
    obtain ⟨message, hmessage, rfl⟩ := Option.map_eq_some_iff.mp hprogram
    rw [hmessage, Option.map_some, Option.some.injEq] at hknown
    subst hknown
    have hmember := List.mem_of_getElem? hmessage
    exact process_harmless hsuit.fit (hworkflow message hmember) (hsuit.admits message hmember) rfl

/-- In harmless traffic, the record of a static analysis that has ended lasts. -/
theorem sa_lasts_of_suit {c : Circumstances} {messages : List Completion}
    (hsuit : c.Suit messages) (hshows : start.Shows c.origin)
    (hunruled : start.store.unruled c.origin.workflow.templateId = c.unruled)
    (hworkflow : ∀ message ∈ messages, message.workflowId = c.origin.workflow.id) :
    (o.delivering start messages).SaLasts c.origin.task.id := by
  intro first rest run hrun hterminal
  obtain ⟨stakes, hbound⟩ :=
    (harmless_launch (o := o) hsuit hshows hunruled hworkflow).fly (harmless_upholds c none) first
  obtain ⟨hsame, ⟨scene, hscene, hholds, hstakes, _⟩, hapart⟩ := hbound.pool
  rw [← hholds.taskId, hscene.saRun?, Option.some.injEq] at hrun
  subst hrun
  refine ⟨hholds.rounded hterminal, ?_⟩
  -- From here on, this record is the one that is kept.
  have hkeeps : ((o.delivering start messages).fly first).Bound (harmless c)
      (Sharing c (some scene.task.sa)) (fun _ => True) stakes := by
    refine ⟨⟨hsame, ⟨scene, hscene, hholds, hstakes, ?_⟩, hapart⟩, hbound.length, hbound.honors⟩
    rintro run ⟨⟩
    exact ⟨hterminal, rfl⟩
  obtain ⟨_, hlater⟩ := hkeeps.fly (harmless_upholds c (some scene.task.sa)) rest
  obtain ⟨_, ⟨met, hmet, hholdsLater, _, hkept⟩, _⟩ := hlater.pool
  rw [Flight.fly_append, ← hholdsLater.taskId, hmet.saRun?, (hkept _ rfl).2]

end System

end ScanFlow
