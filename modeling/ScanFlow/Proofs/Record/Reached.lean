import ScanFlow.Proofs.Record.Step

/-!
The records of every task are in order between two services.

A service keeps the records of a stored workflow in order, and so does the first dispatch of a
new one. Every task that has been added belongs to a workflow, so that nothing is left out.
-/

namespace ScanFlow

namespace Scene

variable {o : Orchestrator} {system next : System} {scene after : Scene}

/-- A manual merge of merged results changes moments only. -/
theorem same_of_remerged (hcovers : o.Covers scene)
    {records : List MergeRecord} (moment now : Timestamp)
    (hboth : scene.task.bothSucceeded = true)
    (hrecords : o.mergeRecords scene.task scene.results = .ok records) :
    scene.Same { scene with
      task := scene.task.withSummary (.ofResults records moment) records.length now } := by
  have hmerged := hcovers hboth
  rw [hrecords] at hmerged
  obtain ⟨_, hcount, hsummary⟩ := hmerged
  refine ⟨?_, rfl, fun _ _ _ _ => rfl⟩
  have htimeless := Summary.timeless_ofResults records moment
  simp [Task.record, Task.timeless, Task.withSummary, htimeless, hsummary, hcount]

/-- An answer that is expected covers what can be merged, and any other one changes nothing. -/
theorem Same.orderly_covers {answered : Scene} (hsame : answered.Same after)
    (hanswered : answered.Orderly) (hcovers : o.Covers scene)
    (hcases : answered = scene ∨ scene.task.mergeClaimed = false ∧ o.Covers answered) :
    after.Orderly ∧ o.Covers after := by
  refine ⟨hsame.orderly hanswered, hsame.covers hanswered.listed ?_⟩
  rcases hcases with rfl | ⟨_, hmerged⟩
  · exact hcovers
  · exact hmerged

/-- A service keeps the records of a workflow in order. -/
theorem Step.orderly (h : scene.Step o system next after) (horderly : scene.Orderly)
    (hcovers : o.Covers scene) (hmatched : Matched scene.workflow scene.task) :
    after.Orderly ∧ o.Covers after := by
  have hstart : scene.timeless.Orderly := (timeless_same scene).orderly horderly
  have hstartCovers : o.Covers scene.timeless :=
    (timeless_same scene).covers horderly.listed hcovers
  cases h with
  | kept _ hsame => exact ⟨hsame.orderly horderly, hsame.covers horderly.listed hcovers⟩
  | compile h =>
    refine ⟨h.orderly horderly hmatched, ?_⟩
    rcases h.not_both with rfl | hnot
    · exact hcovers
    · intro hboth
      rw [hnot] at hboth
      cases hboth
  | sa answer nextNumber hprocessed _ _ h =>
    obtain ⟨queue, body, haccepted⟩ := hprocessed.accepted
    obtain ⟨hanswered, hcases⟩ := hstart.saAnswered o system.store.unruled haccepted
    exact (same_of_timeless h).orderly_covers hanswered hstartCovers hcases
  | ml answer hprocessed _ _ h =>
    obtain ⟨queue, body, haccepted⟩ := hprocessed.accepted
    obtain ⟨hanswered, hcases⟩ := hstart.mlAnswered o system.store.unruled haccepted
    have hsame : (scene.timeless.mlAnswered o system.store.unruled answer).Same after :=
      same_of_timeless h
    exact hsame.orderly_covers hanswered hstartCovers hcases
  | remerged records moment now hboth hrecords h =>
    have hsame := same_of_remerged hcovers moment now hboth hrecords
    rw [h]
    exact ⟨hsame.orderly horderly, hsame.covers horderly.listed hcovers⟩

/-- Nothing is stored of findings of a new task. -/
theorem New.orderly (h : scene.New system)
    (howned : ∀ group ∈ system.store.groups, (system.store.tasks.get? group.taskId).isSome) :
    scene.Orderly := by
  obtain ⟨hsa, hml, hsummary, hcount⟩ := h.blank
  have hown : scene.own = [] := by
    apply List.filter_eq_nil_iff.mpr
    intro group member htask
    have hknown := howned group (h.groups ▸ member)
    rw [of_decide_eq_true htask, h.new] at hknown
    cases hknown
  constructor
  · exact
      { sa := by
          rw [hsa]
          exact RunMark.fits_initial _ _
        ml := by
          rw [hml]
          exact RunMark.fits_initial _ _
        unlisted := by
          rw [hsa]
          exact fun _ => rfl
        report := by
          rw [hml]
          nofun
        unreported := by
          rw [hml]
          exact fun _ => rfl
        claimed := by
          rw [h.fresh.unclaimed]
          nofun
        unmerged := by
          rw [hsa]
          exact fun _ => ⟨hsummary, hcount⟩ }
  · constructor
    · rw [hown, hsa]
      rfl
    · rw [hsa]
      exact List.nodup_nil
    · rw [hown, hsa]
      rfl
    · rw [hown]
      nofun

/-- The first dispatch keeps the records of a new task in order. -/
theorem Begun.orderly (h : scene.Begun system next after) (hnew : scene.New system)
    (horderly : scene.Orderly) : after.Orderly ∧ o.Covers after := by
  have hnone : after.task.bothSucceeded = false → o.Covers after := by
    intro hnot hboth
    rw [hnot] at hboth
    cases hboth
  rcases h with hsame | hlaunched
  · have hstart := (timeless_same scene).orderly horderly
    refine ⟨(same_of_timeless hsame).orderly hstart, hnone ?_⟩
    rw [Task.both_of_record (same_of_timeless hsame).record]
    exact hnew.fresh.unasked.timeless.not_both
  · exact ⟨hlaunched.orderly horderly hnew.fresh.unasked hnew.matched.kind,
      hnone (hlaunched.not_both hnew.fresh.unasked)⟩

end Scene

namespace System

open Orchestrator

variable {o : Orchestrator} {start system next : System} {scene : Scene}

inductive Adds (system next : System) : Prop where
  | nothing
      (hworkflows : ∀ id, (next.store.workflows.get? id).isSome =
        (system.store.workflows.get? id).isSome)
      (htasks : ∀ id, (next.store.tasks.get? id).isSome = (system.store.tasks.get? id).isSome)
      (hgroups : ∀ group ∈ next.store.groups, group ∈ system.store.groups ∨
        (system.store.tasks.get? group.taskId).isSome)
  | scene {new after : Scene} (hnew : new.New system) (hafter : next.Shows after)
      (hbegun : new.Begun system next after) (hspares : new.Spares system next)

theorem Adds.of_same (hworkflows : next.store.workflows = system.store.workflows)
    (htasks : next.store.tasks = system.store.tasks)
    (hgroups : next.store.groups = system.store.groups) : system.Adds next :=
  .nothing (fun _ => by rw [hworkflows]) (fun _ => by rw [htasks])
    fun _ member => Or.inl (hgroups ▸ member)

/-- Workflows and groups are as they were, and so is each task as far as it stands. -/
structure Stands (system next : System) : Prop where
  keyed : next.store.Keyed
  workflows : ∀ id, next.store.workflows.get? id = system.store.workflows.get? id
  tasks : ∀ id, (next.store.tasks.get? id).map Task.standing =
    (system.store.tasks.get? id).map Task.standing
  groups : next.store.groups = system.store.groups

theorem Stands.perform (h : system.Stands next) {β : Type} {call : Call β}
    (hslight : call.Slight) (env : Environment) : system.Stands (call.perform env next).2 := by
  obtain ⟨hworkflows, htasks⟩ := Call.Mild.stored hslight.mild env h.keyed
  exact
    { keyed := call.keyed_perform env h.keyed
      workflows := fun id => (hworkflows id).trans (h.workflows id)
      tasks := fun id => (htasks id).trans (h.tasks id)
      groups := (hslight.groups env next).trans h.groups }

/-- Decisions, and the registration of an archive, add nothing. -/
theorem adds_of_slight {α : Type} {program : Program α} {outcome : Except ServiceError α}
    (hkeyed : system.store.Keyed) (hslight : program.Only Call.Slight)
    (hruns : program.Runs system outcome next) : system.Adds next := by
  have hstands : system.Stands next :=
    hruns.preserves system.Stands (fun _ env _ hslight h => h.perform hslight env) hslight
      ⟨hkeyed, fun _ => rfl, fun _ => rfl, rfl⟩
  refine .nothing (fun id => by rw [hstands.workflows]) ?_
    fun _ member => Or.inl (hstands.groups ▸ member)
  intro id
  rw [← Option.isSome_map (f := Task.standing), hstands.tasks, Option.isSome_map]

theorem Sound.process_adds (hsound : system.Sound) {message : Completion}
    {outcome : Except ServiceError Unit} (hruns : (o.process message).Runs system outcome next) :
    system.Adds next := by
  rcases hsound.process_spares hruns with rfl | ⟨named, hnamed, hid, hspares⟩
  · exact .of_same rfl rfl rfl
  obtain ⟨hmatched, hphase⟩ := hsound.shown hnamed
  obtain ⟨reached, hreached, _, hfixed, htask, _⟩ :=
    (process_alone (o := o) hnamed.linked hmatched hphase message hid.symm).runs hnamed hruns
  refine .nothing ?_ ?_ ?_
  · intro id
    by_cases hown : id = named.workflow.id
    · have hstored := hreached.workflow
      rw [Workflow.id_of_fixed hfixed] at hstored
      rw [hown, hstored, hnamed.workflow]
      rfl
    · rw [hspares.workflows id hown]
  · intro id
    by_cases hown : id = named.task.id
    · have hstored := hreached.task
      rw [htask] at hstored
      rw [hown, hstored, hnamed.task]
      rfl
    · rw [hspares.tasks id hown]
  · intro group member
    rcases hsound.process_stored hnamed hid hruns with ⟨hold, _⟩ | ⟨rules, hnew, _⟩
    · rw [hold, ← hnamed.groups] at member
      exact Or.inl member
    · have hown := ownReports_storedReports named.task.id named.nextNumber rules
      rw [hnew, Scene.after_insertGroups, if_pos hown] at member
      rcases List.mem_append.mp member with hstored | hadded
      · rw [← hnamed.groups] at hstored
        exact Or.inl hstored
      · obtain ⟨report, hreport, rfl⟩ := List.mem_map.mp hadded
        rw [(storedReports_own hreport).1, hnamed.task]
        exact Or.inr rfl

theorem Sound.adds (hsound : system.Sound) (hservice : Service o system next) :
    system.Adds next := by
  cases hservice with
  | registerCode upload hruns =>
    exact adds_of_slight hsound.keyed (registerCode_slight upload) hruns
  | start submission hruns =>
    cases start_submits hsound.keyed hruns with
    | refused hreads =>
      exact .of_same (congrArg Store.workflows hreads.store) (congrArg Store.tasks hreads.store)
        (congrArg Store.groups hreads.store)
    | created hreads hcreated hdispatch =>
      obtain ⟨new, reached, hnew, hreached, hbegun, hspares, _⟩ :=
        created_begun hreads hcreated hdispatch
      exact .scene hnew hreached hbegun hspares
  | process _ hruns => exact hsound.process_adds hruns
  | remerge taskId hruns =>
    have hremerges := (remerge_through (o := o) hsound.keyed taskId).runs hruns
    cases hremerges with
    | refused => exact .of_same rfl rfl rfl
    | replaced moment now hstored _ _ =>
      refine .nothing (fun _ => rfl) (fun id => ?_) fun _ => Or.inl
      dsimp only
      rw [SortedMap.get?_insert]
      split
      · rename_i hid
        rw [hid, hstored]
        rfl
      · rfl
  | audit taskId findingId request hruns =>
    exact adds_of_slight hsound.keyed (auditFinding_slight taskId findingId request) hruns
  | putRule rule => exact .of_same rfl rfl rfl
  | putTemplate template => exact .of_same rfl rfl rfl

/-! ### The invariant -/

/-- The records of all workflows are in order. Every task that has been added since the start
belongs to a workflow, and every group to a task. -/
structure InOrder (o : Orchestrator) (start system : System) : Prop where
  scenes : ∀ scene, system.Shows scene → scene.Orderly ∧ o.Covers scene
  tasks : ∀ id task, system.store.tasks.get? id = some task → start.store.tasks.get? id = none →
    ∃ scene, system.Shows scene ∧ scene.task = task
  groups : ∀ group ∈ system.store.groups, (system.store.tasks.get? group.taskId).isSome

theorem InOrder.listed (h : InOrder o start system) :
    ∀ scene, system.Shows scene → scene.Listed :=
  fun scene hshows => (h.scenes scene hshows).1.listed

/-- What a service makes of the scenes that are shown: each has been shown before, or it is of a
new workflow. -/
theorem Sound.step_back (hsound : system.Sound) (hfiled : start.Filed system)
    (hlisted : ∀ scene, system.Shows scene → scene.Listed) (hservice : Service o system next)
    {after : Scene} (hafter : next.Shows after) :
    (∃ scene, system.Shows scene ∧ after.workflow.given = scene.workflow.given ∧
      scene.Step o system next after) ∨
      ∃ new : Scene, new.New system ∧ new.Begun system next after := by
  have hold : ∀ workflow, system.store.workflows.get? after.workflow.id = some workflow →
      ∃ scene, system.Shows scene ∧ after.workflow.given = scene.workflow.given ∧
        scene.Step o system next after := by
    intro workflow hstored
    obtain ⟨scene, rfl, hshows, _⟩ := hsound.scene hstored
    obtain ⟨reached, hreached, hgiven, hstep⟩ :=
      hsound.step hfiled hshows (hlisted scene hshows) hservice
    have hid : reached.workflow.id = after.workflow.id :=
      (Workflow.id_of_given hgiven).trans (hsound.keyed.workflows _ _ hstored)
    cases hreached.unique hafter hid
    exact ⟨scene, hshows, hgiven, hstep⟩
  cases hsound.adds hservice with
  | nothing hworkflows _ _ =>
    have hknown := hworkflows after.workflow.id
    rw [hafter.workflow] at hknown
    obtain ⟨workflow, hstored⟩ := Option.isSome_iff_exists.mp hknown.symm
    exact Or.inl (hold workflow hstored)
  | @scene new reached hnew hreached hbegun hspares =>
    by_cases hid : after.workflow.id = new.workflow.id
    · have hsame := hreached.unique hafter ((Workflow.id_of_given hbegun.akin.given).trans hid.symm)
      subst hsame
      exact Or.inr ⟨new, hnew, hbegun⟩
    · have hstored := hafter.workflow
      rw [hspares.workflows _ hid] at hstored
      exact Or.inl (hold _ hstored)

/-- A service keeps all records in order. -/
theorem InOrder.service (horder : InOrder o start system) (hsound : system.Sound)
    (hfiled : start.Filed system) (hservice : Service o system next) :
    InOrder o start next := by
  have hlisted := horder.listed
  have hsoundNext := (hsound.service hservice).1
  have hold : ∀ id task, next.store.tasks.get? id = some task →
      (system.store.tasks.get? id).isSome → start.store.tasks.get? id = none →
        ∃ scene, next.Shows scene ∧ scene.task = task := by
    intro id task hstored hknown hnew
    obtain ⟨before, hbefore⟩ := Option.isSome_iff_exists.mp hknown
    obtain ⟨scene, hshows, rfl⟩ := horder.tasks id before hbefore hnew
    have hid := hsound.keyed.tasks _ _ hbefore
    obtain ⟨after, hafter, hgiven, _⟩ := hsound.step hfiled hshows (hlisted scene hshows) hservice
    refine ⟨after, hafter, ?_⟩
    have htask : after.task.id = id := by
      rw [← hafter.linked, Workflow.taskId_of_given hgiven, hshows.linked, hid]
    have hagain := hafter.task
    rw [htask, hstored, Option.some.injEq] at hagain
    exact hagain.symm
  refine ⟨?_, ?_, ?_⟩
  · intro after hafter
    rcases hsound.step_back hfiled hlisted hservice hafter with
      ⟨scene, hshows, _, hstep⟩ | ⟨new, hnew, hbegun⟩
    · obtain ⟨horderly, hcovers⟩ := horder.scenes scene hshows
      exact hstep.orderly horderly hcovers (hsound.shown hshows).1
    · exact hbegun.orderly hnew (hnew.orderly horder.groups)
  · intro id task hstored hnew
    cases hsound.adds hservice with
    | nothing _ htasks _ =>
      refine hold id task hstored ?_ hnew
      rw [← htasks id, hstored]
      rfl
    | @scene new reached _ hreached hbegun hspares =>
      by_cases hid : id = new.task.id
      · refine ⟨reached, hreached, ?_⟩
        have hagain := hreached.task
        rw [hbegun.akin.id, ← hid, hstored, Option.some.injEq] at hagain
        exact hagain.symm
      · refine hold id task hstored ?_ hnew
        rw [← hspares.tasks id hid, hstored]
        rfl
  · intro group member
    cases hsound.adds hservice with
    | nothing _ htasks hgroups =>
      rw [htasks]
      rcases hgroups group member with hstored | hknown
      · exact horder.groups group hstored
      · exact hknown
    | @scene new reached hnew hreached hbegun hspares =>
      have hstored : group ∈ system.store.groups := by
        rw [← hnew.groups, ← hbegun.akin.groups, ← hreached.groups]
        exact member
      have hknown := horder.groups group hstored
      rw [hspares.tasks]
      · exact hknown
      · intro hid
        rw [hid, hnew.new] at hknown
        cases hknown

/-- A system without workflows, whose findings are those of its tasks. -/
structure Unsubmitted (system : System) : Prop extends system.Initial where
  owned : ∀ group ∈ system.store.groups, (system.store.tasks.get? group.taskId).isSome

theorem unsubmitted_empty : System.empty.Unsubmitted where
  toInitial := initial_empty
  owned := fun _ member => nomatch member

/-- Between two services all records are in order. -/
theorem Unsubmitted.inOrder (hstart : start.Unsubmitted) (hreach : Reaches o start system) :
    InOrder o start system := by
  induction hreach with
  | refl =>
    refine ⟨?_, ?_, hstart.owned⟩
    · intro scene hshows
      have hstored := hshows.workflow
      rw [hstart.workflows, SortedMap.get?_empty] at hstored
      cases hstored
    · intro id task hstored hnew
      cases hnew.symm.trans hstored
  | step hreach hservice ih =>
    exact ih.service (hstart.toInitial.reaches hreach).1 (hstart.toInitial.filed hreach) hservice

/-- What the next service makes of a workflow that is stored. -/
theorem Unsubmitted.step (hstart : start.Unsubmitted) (hreach : Reaches o start system)
    (hservice : Service o system next) (hshows : system.Shows scene) :
    ∃ after, next.Shows after ∧ after.workflow.given = scene.workflow.given ∧
      scene.Step o system next after :=
  (hstart.toInitial.reaches hreach).1.step (hstart.toInitial.filed hreach) hshows
    ((hstart.inOrder hreach).listed scene hshows) hservice

/-- Where a workflow that is stored after the next service comes from. -/
theorem Unsubmitted.step_back (hstart : start.Unsubmitted) (hreach : Reaches o start system)
    (hservice : Service o system next) {after : Scene} (hafter : next.Shows after) :
    (∃ scene, system.Shows scene ∧ after.workflow.given = scene.workflow.given ∧
      scene.Step o system next after) ∨
      ∃ new : Scene, new.New system ∧ new.Begun system next after :=
  (hstart.toInitial.reaches hreach).1.step_back (hstart.toInitial.filed hreach)
    (hstart.inOrder hreach).listed hservice hafter

end System

end ScanFlow
