import ScanFlow.Proofs.Store.History

/-!
Workflows move forward only.

Nothing is assumed about who calls the store, in which order, or with which arguments, beyond
that workflows are created fresh. The guards of the two operations that change a workflow are
then enough: a stage is added only to a workflow that runs and has stages left, and a status is
final.
-/

namespace ScanFlow

namespace Workflow

variable {workflow next later : Workflow} {now : Timestamp}

structure Paced (workflow : Workflow) : Prop where
  progress : workflow.progress ≤ workflow.steps
  timeline : workflow.timeline.length = workflow.progress

/-- A later record of the same workflow. Only its status, its progress, its timeline and the
moment of its last change may differ, and nothing differs once the workflow has ended. -/
structure Forward (workflow later : Workflow) : Prop where
  kept : later =
    { workflow with
      status := later.status
      progress := later.progress
      timeline := later.timeline
      updatedAt := later.updatedAt }
  progress : workflow.progress ≤ later.progress
  timeline : workflow.timeline <+: later.timeline
  ended : workflow.status.isTerminal = true → later = workflow

theorem Forward.refl (workflow : Workflow) : workflow.Forward workflow :=
  ⟨rfl, Nat.le_refl _, List.prefix_rfl, fun _ => rfl⟩

theorem Forward.trans (first : workflow.Forward next) (second : next.Forward later) :
    workflow.Forward later where
  kept := by
    have hnext := first.kept
    have hlater := second.kept
    rw [hnext] at hlater
    exact hlater
  progress := Nat.le_trans first.progress second.progress
  timeline := first.timeline.trans second.timeline
  ended := by
    intro hended
    have hnext := first.ended hended
    rw [hnext] at second
    exact second.ended hended

theorem Stepped.forward (stepped : workflow.Stepped now next) : workflow.Forward next := by
  cases stepped with
  | advanced h =>
    obtain ⟨hrunning, _, rfl⟩ := advanced?_eq_some h
    refine ⟨rfl, Nat.le_succ _, List.prefix_append _ _, ?_⟩
    intro hended
    have hstatus : workflow.status = .running := by simpa [isRunning] using hrunning
    rw [hstatus] at hended
    cases hended
  | finished h =>
    obtain ⟨hmay, rfl⟩ := finished?_eq_some h
    refine ⟨rfl, Nat.le_refl _, List.prefix_rfl, ?_⟩
    intro hended
    cases hstatus : workflow.status with
    | running =>
      rw [hstatus] at hended
      cases hended
    | complete | aborted =>
      rw [hstatus] at hmay
      cases hmay

theorem Stepped.paced (stepped : workflow.Stepped now next) (paced : workflow.Paced) :
    next.Paced := by
  cases stepped with
  | advanced h =>
    obtain ⟨_, hleft, rfl⟩ := advanced?_eq_some h
    have hstages : workflow.progress < workflow.steps := by
      simpa [isFullyProgressed] using hleft
    exact ⟨hstages, by simp [paced.timeline]⟩
  | finished h =>
    obtain ⟨_, rfl⟩ := finished?_eq_some h
    exact ⟨paced.progress, paced.timeline⟩

end Workflow

/-- A workflow is only ever created as a new one, running and with no stage done. -/
def StoreEvent.StartsFresh : StoreEvent → Prop
  | performed (.createWorkflow workflow _) _ =>
    ∃ id shape taskId codeId templateId trigger limits now,
      workflow = .fresh id shape taskId codeId templateId trigger limits now
  | _ => True

namespace Store

variable {start store next later : Store} {event : StoreEvent}
  {history more : List StoreEvent} {id : Uuid}

/-! ### A workflow and its task appear together -/

/-- What a step adds to the records: none at all, or one workflow together with one task. -/
inductive Enrols (store next : Store) : StoreEvent → Prop
  | nothing {event : StoreEvent}
      (workflows : ∀ id, next.workflows.contains id = store.workflows.contains id)
      (tasks : ∀ id, next.tasks.contains id = store.tasks.contains id) : Enrols store next event
  | together (workflow : Workflow) (task : Task)
      (noWorkflow : store.workflows.get? workflow.id = none)
      (noTask : store.tasks.get? task.id = none)
      (added : next =
        { store with
          tasks := store.tasks.insert task.id task
          workflows := store.workflows.insert workflow.id workflow }) :
      Enrols store next (.performed (.createWorkflow workflow task) (.ok ()))

theorem contains_changeWorkflow (store : Store) (named id : Uuid)
    (change : Workflow → Option Workflow) :
    (store.changeWorkflow named change).2.workflows.contains id = store.workflows.contains id := by
  unfold SortedMap.contains
  rw [get?_changeWorkflow]
  split
  · rename_i heq
    rw [Option.isSome_map, heq]
  · rfl

theorem contains_changeTask (store : Store) (named id : Uuid) (change : Task → Option Task) :
    (store.changeTask named change).2.tasks.contains id = store.tasks.contains id := by
  unfold SortedMap.contains
  rw [get?_changeTask]
  split
  · rename_i heq
    rw [Option.isSome_map, heq]
  · rfl

theorem Step.enrols (step : store.Step event next) : store.Enrols next event := by
  cases step with
  | putRule | putTemplate | putFile | putCode => exact .nothing (fun _ => rfl) (fun _ => rfl)
  | perform now operation =>
    by_cases hold : operation.creates = false
    · refine .nothing ?_ ?_
      · intro id
        cases hchange : operation.workflowChange? now with
        | none => rw [Operation.perform_workflows hchange hold]
        | some named => rw [Operation.perform_workflowChange hchange, contains_changeWorkflow]
      · intro id
        cases hchange : operation.taskChange? now with
        | none => rw [Operation.perform_tasks hchange hold]
        | some named => rw [Operation.perform_taskChange hchange, contains_changeTask]
    · cases operation with
      | createWorkflow workflow task =>
        rcases createWorkflow_cases store workflow task with hsame | ⟨hworkflow, htask, hadded⟩
        · rw [Operation.perform, hsame]
          exact .nothing (fun _ => rfl) (fun _ => rfl)
        · rw [Operation.perform, hadded]
          exact .together workflow task hworkflow htask rfl
      | _ => exact absurd rfl hold

/-- Where the workflow or the task is there already, nothing is created. -/
theorem createWorkflow_refused {workflow : Workflow} {task : Task}
    (htaken : store.workflows.contains workflow.id = true ∨ store.tasks.contains task.id = true) :
    store.createWorkflow workflow task =
      (.error (.alreadyExists workflow.id task.id), store) := by
  rcases createWorkflow_cases store workflow task with hsame | ⟨hworkflow, htask, _⟩
  · exact hsame
  · rcases htaken with h | h
    · simp [SortedMap.contains, hworkflow] at h
    · simp [SortedMap.contains, htask] at h

/-! ### Every workflow of a store -/

def Paced (store : Store) : Prop :=
  ∀ id workflow, store.workflows.get? id = some workflow → workflow.Paced

theorem Step.paced (step : store.Step event next) (fresh : event.StartsFresh)
    (paced : store.Paced) : next.Paced := by
  intro id workflow hstored
  cases hbefore : store.workflows.get? id with
  | some before =>
    obtain ⟨after, hafter, hsame⟩ := step.workflow_kept hbefore
    obtain rfl : after = workflow := Option.some.inj (hafter.symm.trans hstored)
    rcases hsame with rfl | ⟨now, stepped⟩
    · exact paced id after hbefore
    · exact stepped.paced (paced id before hbefore)
  | none =>
    cases step.enrols with
    | nothing workflows tasks =>
      have hsame := workflows id
      simp [SortedMap.contains, hbefore, hstored] at hsame
    | together added task hnone _ hnext =>
      rw [hnext, SortedMap.get?_insert] at hstored
      split at hstored
      · obtain ⟨id, shape, taskId, codeId, templateId, trigger, limits, now, rfl⟩ := fresh
        rw [← Option.some.inj hstored]
        exact ⟨Nat.zero_le _, rfl⟩
      · cases hbefore.symm.trans hstored

theorem Ran.paced (ran : start.Ran history store) (fresh : ∀ event ∈ history, event.StartsFresh)
    (paced : start.Paced) : store.Paced := by
  induction ran with
  | start => exact paced
  | step _ step ih =>
    have hbefore := ih fun event member => fresh event (List.mem_append_left _ member)
    exact step.paced (fresh _ (List.mem_append_right _ List.mem_cons_self)) hbefore

theorem Step.forward (step : store.Step event next) {workflow : Workflow}
    (hstored : store.workflows.get? id = some workflow) :
    ∃ after, next.workflows.get? id = some after ∧ workflow.Forward after := by
  obtain ⟨after, hafter, rfl | ⟨now, stepped⟩⟩ := step.workflow_kept hstored
  · exact ⟨after, hafter, .refl after⟩
  · exact ⟨after, hafter, stepped.forward⟩

theorem Ran.forward (ran : start.Ran history store) {workflow : Workflow}
    (hstored : start.workflows.get? id = some workflow) :
    ∃ after, store.workflows.get? id = some after ∧ workflow.Forward after := by
  induction ran with
  | start => exact ⟨workflow, hstored, .refl workflow⟩
  | step _ step ih =>
    obtain ⟨middle, hmiddle, hforward⟩ := ih
    obtain ⟨after, hafter, honwards⟩ := step.forward hmiddle
    exact ⟨after, hafter, hforward.trans honwards⟩

/-- Along every history of a store in which workflows are only created fresh: each workflow has
done no more stages than it has, with a moment for each; whatever follows, its record only moves
forward; and a workflow and its task are added together, or, where one of them is there already,
not at all. -/
theorem workflows_move_forward (hnone : start.workflows = ∅) (ran : start.Ran history store)
    (fresh : ∀ event ∈ history, event.StartsFresh) :
    (∀ id workflow, store.workflows.get? id = some workflow →
      workflow.progress ≤ workflow.steps ∧ workflow.timeline.length = workflow.progress ∧
        ∀ more later, store.Ran more later →
          ∃ after, later.workflows.get? id = some after ∧ workflow.Forward after) ∧
      (∀ event next, store.Step event next → store.Enrols next event) ∧
      ∀ now workflow task,
        store.workflows.contains workflow.id = true ∨ store.tasks.contains task.id = true →
          (Operation.createWorkflow workflow task).perform now store =
            (.error (.alreadyExists workflow.id task.id), store) := by
  refine ⟨?_, fun event next step => step.enrols, fun now workflow task => createWorkflow_refused⟩
  intro id workflow hstored
  have hempty : start.Paced := by
    intro id workflow hfound
    rw [hnone, SortedMap.get?_empty] at hfound
    cases hfound
  have hpaced := ran.paced fresh hempty id workflow hstored
  exact ⟨hpaced.progress, hpaced.timeline, fun more later onwards => onwards.forward hstored⟩

/-! ### A scan that is carried out -/

def newScan : Workflow := .fresh ⟨1⟩ .sa ⟨2⟩ ⟨3⟩ none "manual" .standard ⟨0, 0⟩

def newScanTask : Task := .fresh ⟨2⟩ ⟨3⟩ "manual" "shop.jar" (some "shop") (some .sa) ⟨0, 0⟩

def scanCreated : Store :=
  ((Operation.createWorkflow newScan newScanTask).perform ⟨0, 0⟩ empty).2

def scanAdvanced : Store := ((Operation.advance ⟨1⟩ ⟨5, 0⟩).perform ⟨5, 0⟩ scanCreated).2

def scanFinished : Store := ((Operation.finish ⟨1⟩ .complete).perform ⟨6, 0⟩ scanAdvanced).2

theorem ran_scanCreated :
    empty.Ran [.performed (.createWorkflow newScan newScanTask) (.ok ())] scanCreated :=
  .step .start (.perform ⟨0, 0⟩ (.createWorkflow newScan newScanTask))

/-- A scan that has been created is done and complete later, with all else as it was. -/
theorem scan_moves_forward :
    (∀ event ∈ [StoreEvent.performed (.createWorkflow newScan newScanTask) (.ok ())],
        event.StartsFresh) ∧
      empty.workflows = ∅ ∧ scanCreated.workflows.get? ⟨1⟩ = some newScan ∧
      ∃ after, scanFinished.workflows.get? ⟨1⟩ = some after ∧ newScan.Forward after ∧
        after.progress = 1 ∧ after.timeline = [⟨5, 0⟩] ∧ after.status = .complete := by
  have hfresh : ∀ event ∈ [StoreEvent.performed (.createWorkflow newScan newScanTask) (.ok ())],
      event.StartsFresh := by
    intro event member
    rw [List.mem_singleton.mp member]
    exact ⟨⟨1⟩, .sa, ⟨2⟩, ⟨3⟩, none, "manual", .standard, ⟨0, 0⟩, rfl⟩
  have hcreated : scanCreated.workflows.get? ⟨1⟩ = some newScan := by decide
  have hadvance : scanCreated.Step _ scanAdvanced := .perform ⟨5, 0⟩ (.advance ⟨1⟩ ⟨5, 0⟩)
  have hfinish : scanAdvanced.Step _ scanFinished := .perform ⟨6, 0⟩ (.finish ⟨1⟩ .complete)
  have honwards := Ran.step (.step .start hadvance) hfinish
  obtain ⟨hrecords, _⟩ := workflows_move_forward rfl ran_scanCreated hfresh
  obtain ⟨_, _, hforward⟩ := hrecords ⟨1⟩ newScan hcreated
  obtain ⟨after, hafter, hmoved⟩ := hforward _ scanFinished honwards
  have hrecord : scanFinished.workflows.get? ⟨1⟩ =
      some
        { newScan with
          status := .complete, progress := 1, timeline := [⟨5, 0⟩], updatedAt := ⟨6, 0⟩ } := by
    decide
  obtain rfl := Option.some.inj (hrecord.symm.trans hafter)
  exact ⟨hfresh, rfl, hcreated, _, hafter, hmoved, rfl, rfl, rfl⟩

end Store

end ScanFlow
