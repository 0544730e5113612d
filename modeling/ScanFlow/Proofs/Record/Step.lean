import ScanFlow.Proofs.Order.Premature
import ScanFlow.Proofs.Record.Compilation
import ScanFlow.Proofs.Record.Review

/-!
What one service makes of a workflow and its task.

A service carries on one workflow at most, by an answer of the compiler or of an engine. It may
also replace the summary of a task, or begin a new workflow. Every other workflow is left with
its task and its findings as they were, but for moments and decisions.
-/

namespace ScanFlow

open Orchestrator

structure Completion.Processed (message : Completion) (o : Orchestrator) (system next : System) :
    Prop where
  accepted : ∃ queue body, Completion.parse queue body = .ok message
  runs : ∃ outcome, (o.process message).Runs system outcome next

namespace Scene

inductive Step (o : Orchestrator) (system next : System) (scene after : Scene) : Prop where
  /-- Nothing has changed but moments, decisions, and what belongs to other tasks. -/
  | kept (hworkflow : after.workflow = scene.workflow) (hsame : scene.Same after)
  /-- The compiler has answered. -/
  | compile (h : scene.CompileAnswered system next after)
  /-- The static analysis has answered. -/
  | sa (answer : SaFinished) (nextNumber : Nat)
      (hprocessed : (Completion.sa answer).Processed o system next)
      (hworkflow : answer.workflowId = scene.workflow.id) (htask : answer.taskId = scene.task.id)
      (h : after.timeless =
        { scene.timeless.saAnswered o system.store.unruled answer with nextNumber })
  /-- The other engine has answered. -/
  | ml (answer : MlFinished) (hprocessed : (Completion.ml answer).Processed o system next)
      (hworkflow : answer.workflowId = scene.workflow.id) (htask : answer.taskId = scene.task.id)
      (h : after.timeless = scene.timeless.mlAnswered o system.store.unruled answer)
  /-- The results have been merged again. -/
  | remerged (records : List MergeRecord) (moment now : Timestamp)
      (hboth : scene.task.bothSucceeded = true)
      (hrecords : o.mergeRecords scene.task scene.results = .ok records)
      (h : after =
        { scene with
          task := scene.task.withSummary (.ofResults records moment) records.length now })

structure New (system : System) (scene : Scene) : Prop where
  linked : scene.workflow.taskId = scene.task.id
  matched : Matched scene.workflow scene.task
  fresh : Fresh scene.workflow scene.task
  blank : scene.task.sa = .initial ∧ scene.task.ml = .initial ∧ scene.task.summary = .notRun ∧
    scene.task.weaknessCount = 0
  groups : scene.groups = system.store.groups
  findings : scene.findings = system.store.findings
  unknown : system.store.workflows.get? scene.workflow.id = none
  new : system.store.tasks.get? scene.task.id = none

def Begun (system next : System) (scene after : Scene) : Prop :=
  after.timeless = { scene.timeless with nextNumber := after.nextNumber } ∨
    scene.Launched system next after

variable {system next : System} {scene after : Scene}

theorem Begun.akin (h : scene.Begun system next after) : scene.Akin after := by
  rcases h with hsame | hlaunched
  · exact akin_of_timeless hsame ⟨rfl, rfl, rfl, rfl⟩
  · exact hlaunched.akin

/-- Whoever stores what is stored already leaves the findings of a task as they are. -/
theorem same_of_stored {groups : List FindingGroup} {findings : Table Finding} (nextNumber : Nat)
    (hgroups : groups = scene.groups) (hfindings : findings = scene.findings) :
    scene.Same { scene with groups, findings, nextNumber } := by
  subst hgroups hfindings
  exact ⟨rfl, rfl, fun _ _ _ _ => rfl⟩

/-- What is stored about another task under fresh numbers leaves the findings of this one as they
are. -/
theorem same_beside {start : System} (hfiled : start.Filed system) (hshows : system.Shows scene)
    (hlisted : scene.Listed) {taskId : Uuid} (hother : taskId ≠ scene.task.id)
    (rules : List (String × SaRuleResult)) (nextNumber : Nat) (now : Timestamp) :
    scene.Same { scene.after now (.insertGroups taskId
      (storedReports taskId scene.nextNumber rules)) with
        workflow := scene.workflow, task := scene.task, nextNumber } := by
  have hown := ownReports_storedReports taskId scene.nextNumber rules
  have hnew : start.store.tasks.get? scene.task.id = none :=
    hshows.linked ▸ hfiled.linked _ _ hshows.workflow
  rw [after_insertGroups, if_pos hown]
  refine ⟨rfl, ?_, ?_⟩
  · unfold own
    dsimp only
    rw [List.filter_append, System.storedReports_foreign hother, List.append_nil]
  · intro group member id hid
    have hstored : group ∈ system.store.groups := hshows.groups ▸ (List.mem_filter.mp member).1
    have hwanted : group.id ∈ scene.task.sa.resultIds := by
      rw [← hlisted.ids]
      exact List.mem_map.mpr ⟨group, member, rfl⟩
    have hsince := hfiled.results _ _ hshows.task hnew _ hwanted
    have hlookup := hfiled.lookup_beside hstored hsince taskId rules scene.findings hid
    rw [hshows.nextNumber] at hlookup
    exact congrArg (Option.map Finding.unaudited) hlookup

end Scene

namespace System

variable {o : Orchestrator} {start system next : System} {scene : Scene}

/-! ### Messages -/

/-- A workflow makes a pair with its own task only. -/
theorem Sound.unpaired (hsound : system.Sound) (hshows : system.Shows scene)
    {workflowId taskId : Uuid} (hworkflow : workflowId = scene.workflow.id)
    (htask : taskId ≠ scene.task.id) : ¬ system.Pairs workflowId taskId := by
  rintro ⟨workflow, task, hfound, hstored, hlinked⟩
  rw [hworkflow, hshows.workflow, Option.some.injEq] at hfound
  apply htask
  rw [← hsound.keyed.tasks _ _ hstored, ← hlinked, ← hfound]
  exact hshows.linked

/-- A message stores groups of the task that it is about, under fresh numbers, or none. -/
theorem Sound.process_stored (hsound : system.Sound) (hshows : system.Shows scene)
    {message : Completion} (hid : scene.workflow.id = message.workflowId)
    {outcome : Except ServiceError Unit} (hruns : (o.process message).Runs system outcome next) :
    next.store.groups = scene.groups ∧ next.store.findings = scene.findings ∨
      ∃ rules, next.store.groups = (scene.after .origin (.insertGroups scene.task.id
          (storedReports scene.task.id scene.nextNumber rules))).groups ∧
        next.store.findings = (scene.after .origin (.insertGroups scene.task.id
          (storedReports scene.task.id scene.nextNumber rules))).findings := by
  obtain ⟨hmatched, hphase⟩ := hsound.shown hshows
  have hidle : next = system →
      next.store.groups = scene.groups ∧ next.store.findings = scene.findings := by
    rintro rfl
    exact ⟨hshows.groups, hshows.findings⟩
  cases message with
  | compile answer =>
    obtain ⟨after, hafter, hanswered⟩ :=
      (onCompileFinished_answers hshows hmatched hphase hid.symm).runs hruns
    have hakin := hanswered.akin
    exact Or.inl ⟨hafter.groups.trans hakin.groups, hafter.findings.trans hakin.findings⟩
  | sa answer =>
    by_cases htask : answer.taskId = scene.task.id
    · obtain ⟨nextNumber, hmoved⟩ := sa_moved hsound hshows hid.symm htask hruns
      obtain ⟨hgroups, hfindings, _⟩ := hmoved.kept
      rcases @Scene.saAnswered_stored o system.store.unruled scene.timeless answer with
        ⟨hold, holdFindings⟩ | ⟨hnew, hnewFindings⟩
      · exact Or.inl ⟨hgroups.trans hold, hfindings.trans holdFindings⟩
      · exact Or.inr ⟨answer.rules, hgroups.trans hnew, hfindings.trans hnewFindings⟩
    · exact Or.inl (hidle (sa_unpaired (hsound.unpaired hshows hid.symm htask) hruns))
  | ml answer =>
    by_cases htask : answer.taskId = scene.task.id
    · have hmoved := ml_moved hsound hshows hid.symm htask hruns
      obtain ⟨hgroups, hfindings, _⟩ := hmoved.kept
      obtain ⟨hold, holdFindings, _⟩ :=
        @Scene.mlAnswered_stored o system.store.unruled scene.timeless answer
      exact Or.inl ⟨hgroups.trans hold, hfindings.trans holdFindings⟩
    · exact Or.inl (hidle (ml_unpaired (hsound.unpaired hshows hid.symm htask) hruns))

/-- What a message makes of the workflow that it is about. -/
theorem Sound.process_own (hsound : system.Sound) (hshows : system.Shows scene)
    {message : Completion} (hid : message.workflowId = scene.workflow.id)
    (hprocessed : message.Processed o system next) :
    ∃ after, next.Shows after ∧ after.workflow.given = scene.workflow.given ∧
      scene.Step o system next after := by
  obtain ⟨hmatched, hphase⟩ := hsound.shown hshows
  obtain ⟨_, hruns⟩ := hprocessed.runs
  have hidle : next = system → ∃ after, next.Shows after ∧
      after.workflow.given = scene.workflow.given ∧ scene.Step o system next after := by
    rintro rfl
    exact ⟨scene, hshows, rfl, .kept rfl (.refl scene)⟩
  cases message with
  | compile answer =>
    obtain ⟨after, hafter, hanswered⟩ :=
      (onCompileFinished_answers hshows hmatched hphase hid).runs hruns
    exact ⟨after, hafter, hanswered.akin.given, .compile hanswered⟩
  | sa answer =>
    by_cases htask : answer.taskId = scene.task.id
    · obtain ⟨nextNumber, hmoved⟩ := sa_moved hsound hshows hid htask hruns
      obtain ⟨after, hafter, hexpected, hgiven, _⟩ := hmoved.reached
      exact ⟨after, hafter, hgiven,
        .sa answer nextNumber hprocessed hid htask hexpected⟩
    · exact hidle (sa_unpaired (hsound.unpaired hshows hid htask) hruns)
  | ml answer =>
    by_cases htask : answer.taskId = scene.task.id
    · have hmoved := ml_moved hsound hshows hid htask hruns
      obtain ⟨after, hafter, hexpected, hgiven, _⟩ := hmoved.reached
      exact ⟨after, hafter, hgiven,
        .ml answer hprocessed hid htask hexpected⟩
    · exact hidle (ml_unpaired (hsound.unpaired hshows hid htask) hruns)

/-- What a message makes of any workflow. -/
theorem Sound.process_step (hsound : system.Sound) (hfiled : start.Filed system)
    (hshows : system.Shows scene) (hlisted : scene.Listed) {message : Completion}
    (hprocessed : message.Processed o system next) :
    ∃ after, next.Shows after ∧ after.workflow.given = scene.workflow.given ∧
      scene.Step o system next after := by
  obtain ⟨_, hruns⟩ := hprocessed.runs
  rcases hsound.process_spares hruns with rfl | ⟨named, hnamed, hid, hspares⟩
  · exact ⟨scene, hshows, rfl, .kept rfl (.refl scene)⟩
  by_cases hown : named.workflow.id = scene.workflow.id
  · exact hsound.process_own hshows (hid.symm.trans hown) hprocessed
  have htask : named.task.id ≠ scene.task.id := by
    intro hsame
    apply hown
    refine hsound.apart _ _ _ _ hnamed.workflow hshows.workflow ?_
    rw [hnamed.linked, hshows.linked, hsame]
  have hspared := hshows.spared hspares (hruns.keyed hsound.keyed) (fun _ => hruns.code_known)
    (Ne.symm hown) (Ne.symm htask)
  refine ⟨_, hspared, rfl, .kept rfl ?_⟩
  have hgroups : named.groups = scene.groups := hnamed.groups.symm.trans hshows.groups
  have hfindings : named.findings = scene.findings := hnamed.findings.symm.trans hshows.findings
  have hnumber : named.nextNumber = scene.nextNumber :=
    hnamed.nextNumber.symm.trans hshows.nextNumber
  rcases hsound.process_stored hnamed hid hruns with ⟨hold, holdFindings⟩ | ⟨rules, hnew, hlater⟩
  · exact Scene.same_of_stored _ (hold.trans hgroups) (holdFindings.trans hfindings)
  · have hsame := Scene.same_beside hfiled hshows hlisted htask rules next.nextNumber .origin
    rw [hnew, hlater]
    unfold Scene.after at hsame ⊢
    dsimp only at hsame ⊢
    rw [hgroups, hfindings, hnumber]
    exact hsame

/-! ### Manual merges -/

theorem remerge_step (hshows : system.Shows scene) {taskId : Uuid}
    {outcome : Except ServiceError Summary} (hruns : (o.remerge taskId).Runs system outcome next) :
    ∃ after, next.Shows after ∧ after.workflow.given = scene.workflow.given ∧
      scene.Step o system next after := by
  have hkeyed := hruns.keyed hshows.keyed
  have hremerges := (remerge_through (o := o) hshows.keyed taskId).runs hruns
  cases hremerges with
  | refused e _ => exact ⟨scene, hshows, rfl, .kept rfl (.refl scene)⟩
  | @replaced _ records moment now hstored hboth hrecords =>
    by_cases hid : scene.task.id = taskId
    · subst hid
      cases hstored.symm.trans hshows.task
      rw [reportsOf, groupReports_eq hshows] at hrecords
      refine ⟨{ scene with
        task := scene.task.withSummary (.ofResults records moment) records.length now }, ?_, rfl,
          .remerged records moment now hboth hrecords rfl⟩
      exact { hshows with
        keyed := hkeyed
        task := SortedMap.get?_insert_self _ _ _ }
    · refine ⟨scene, ?_, rfl, .kept rfl (.refl scene)⟩
      exact { hshows with
        keyed := hkeyed
        task := (SortedMap.get?_insert_of_ne _ _ _ hid).trans hshows.task }

/-! ### Submissions -/

/-- Reading leaves a scene as it is, but for numbers. -/
theorem Reads.step (hreads : system.Reads next) (hshows : system.Shows scene) :
    ∃ after, next.Shows after ∧ after.workflow.given = scene.workflow.given ∧
      scene.Step o system next after :=
  ⟨_, hreads.shows hshows, rfl, .kept rfl ⟨rfl, rfl, fun _ _ _ _ => rfl⟩⟩

/-- A submission creates a scene and begins with it, spares all others, and tells what it has
begun with. -/
theorem created_begun {before added : System} {workflow : Workflow} {task : Task}
    {outcome : Except ServiceError Unit} (hreads : system.Reads before)
    (hcreated : Created before workflow task added)
    (hruns : (o.dispatchFirst workflow).Runs added outcome next) :
    ∃ (new after : Scene), new.New system ∧ next.Shows after ∧ new.Begun system next after ∧
      new.Spares system next ∧ new.workflow = workflow ∧
        new.Told system next after outcome := by
  obtain ⟨scene, rfl, rfl, hshows, hspares⟩ := hcreated.exists_scene
  obtain ⟨_, _, _, _, _, hrest, _⟩ :=
    (dispatchFirst_alone scene hcreated.linked hcreated.matched hcreated.fresh).runs hshows hruns
  have hadded := hcreated.added
  have hbroker : added.broker = system.broker := by
    rw [hadded]
    exact hreads.broker
  have hgroups : scene.groups = system.store.groups := by
    rw [← hshows.groups, hadded, ← hreads.store]
  have hfindings : scene.findings = system.store.findings := by
    rw [← hshows.findings, hadded, ← hreads.store]
  obtain ⟨after, hafter, hbegun, htold⟩ :=
    (dispatchFirst_launches hshows hcreated.matched hcreated.fresh hbroker).runs hruns
  have hunknown := hcreated.unknown
  have hnew := hcreated.new
  have hfirst := hspares.trans hrest
  rw [hreads.store] at hunknown hnew
  refine ⟨scene, after, ⟨hcreated.linked, hcreated.matched, hcreated.fresh, hcreated.blank,
    hgroups, hfindings, hunknown, hnew⟩, hafter, hbegun, ⟨?_, ?_⟩, rfl, htold⟩
  · rw [← hreads.store]
    exact hfirst.workflows
  · rw [← hreads.store]
    exact hfirst.tasks

theorem created_step {new reached : Scene} (hnew : new.New system) (hreached : next.Shows reached)
    (hbegun : new.Begun system next reached) (hspares : new.Spares system next)
    (hcodes : ∀ id, (system.store.codes.get? id).isSome → (next.store.codes.get? id).isSome)
    (hshows : system.Shows scene) :
    ∃ after, next.Shows after ∧ after.workflow.given = scene.workflow.given ∧
      scene.Step o system next after := by
  have hworkflow : scene.workflow.id ≠ new.workflow.id := by
    intro hsame
    have hstored := hshows.workflow
    rw [hsame, hnew.unknown] at hstored
    cases hstored
  have htask : scene.task.id ≠ new.task.id := by
    intro hsame
    have hstored := hshows.task
    rw [hsame, hnew.new] at hstored
    cases hstored
  have hakin := hbegun.akin
  refine ⟨_, hshows.spared hspares hreached.keyed hcodes hworkflow htask, rfl, .kept rfl ?_⟩
  refine Scene.same_of_stored _ ?_ ?_
  · rw [hreached.groups, hakin.groups, hnew.groups, hshows.groups]
  · rw [hreached.findings, hakin.findings, hnew.findings, hshows.findings]

/-! ### All services -/

/-- An edit of the catalog leaves every scene as it is. -/
theorem Shows.of_catalog {rules : Table Rule} {templates : List RuleTemplate}
    (hshows : system.Shows scene) :
    ({ system with store := { system.store with rules, templates } } : System).Shows scene :=
  { hshows with keyed := ⟨hshows.keyed.workflows, hshows.keyed.tasks, hshows.keyed.codes⟩ }

/-- A decision, or the registration of an archive. -/
theorem Shows.step_of_slight {α : Type} {program : Program α} {outcome : Except ServiceError α}
    (hshows : system.Shows scene) (hslight : program.Only Call.Slight)
    (hruns : program.Runs system outcome next) :
    ∃ after, next.Shows after ∧ after.workflow.given = scene.workflow.given ∧
      scene.Step o system next after := by
  obtain ⟨after, hafter, hworkflow, hsame⟩ := hshows.runs_slight hslight hruns
  exact ⟨after, hafter, congrArg Workflow.given hworkflow, .kept hworkflow hsame⟩

/-- What a service makes of a workflow that is stored. -/
theorem Sound.step (hsound : system.Sound) (hfiled : start.Filed system)
    (hshows : system.Shows scene) (hlisted : scene.Listed) (hservice : Service o system next) :
    ∃ after, next.Shows after ∧ after.workflow.given = scene.workflow.given ∧
      scene.Step o system next after := by
  cases hservice with
  | registerCode upload hruns => exact hshows.step_of_slight (registerCode_slight upload) hruns
  | start submission hruns =>
    cases start_submits hsound.keyed hruns with
    | refused hreads => exact hreads.step hshows
    | created hreads hcreated hdispatch =>
      obtain ⟨new, reached, hnew, hreached, hbegun, hspares, _⟩ :=
        created_begun hreads hcreated hdispatch
      exact created_step hnew hreached hbegun hspares (fun _ => hruns.code_known) hshows
  | process haccepted hruns =>
    exact hsound.process_step hfiled hshows hlisted ⟨⟨_, _, haccepted⟩, _, hruns⟩
  | remerge taskId hruns => exact remerge_step hshows hruns
  | audit taskId findingId request hruns =>
    exact hshows.step_of_slight (auditFinding_slight taskId findingId request) hruns
  | putRule rule => exact ⟨scene, hshows.of_catalog, rfl, .kept rfl (.refl scene)⟩
  | putTemplate template => exact ⟨scene, hshows.of_catalog, rfl, .kept rfl (.refl scene)⟩

end System

end ScanFlow
