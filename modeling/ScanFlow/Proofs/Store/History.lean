import ScanFlow.Proofs.Store.Effect

/-!
The history of a store: the calls to it in their order, each with its answer.

A call is one step of the store. Any call may follow any other, with any arguments and at any
moment, so a history is what is left of any number of services and processors running side by
side. Rules, templates, files and codes may also be put without a call.
-/

namespace ScanFlow

/-- A call to the store with its answer, or an edit of what is kept beside workflows, tasks and
findings. -/
inductive StoreEvent : Type 1 where
  | performed {α : Type} (operation : Store.Operation α) (answer : α)
  | edited

namespace Workflow

/-- How a stored workflow may change: by one of the guarded changes. -/
inductive Stepped (now : Timestamp) (workflow : Workflow) : Workflow → Prop where
  | advanced {moment : Timestamp} {next : Workflow} (h : workflow.advanced? moment = some next) :
      Stepped now workflow next
  | finished {status : Status} {next : Workflow} (h : workflow.finished? status now = some next) :
      Stepped now workflow next

end Workflow

namespace Store

variable {α : Type} {store next : Store} {event : StoreEvent} {now : Timestamp} {id : Uuid}

inductive Step (store : Store) : StoreEvent → Store → Prop
  | perform {α : Type} (now : Timestamp) (operation : Operation α) :
      Step store (.performed operation (operation.perform now store).1)
        (operation.perform now store).2
  | putRule (rule : Rule) : Step store .edited (store.putRule rule)
  | putTemplate (template : RuleTemplate) : Step store .edited (store.putTemplate template)
  | putFile (file : StoredFile) : Step store .edited (store.putFile file)
  | putCode (code : Code) : Step store .edited (store.putCode code)

inductive Ran (start : Store) : List StoreEvent → Store → Prop
  | start : Ran start [] start
  | step {history : List StoreEvent} {store next : Store} {event : StoreEvent}
      (ran : Ran start history store) (step : store.Step event next) :
      Ran start (history ++ [event]) next

theorem Ran.trans {start : Store} {history more : List StoreEvent}
    (hfirst : start.Ran history store) (hsecond : store.Ran more next) :
    start.Ran (history ++ more) next := by
  induction hsecond with
  | start =>
    rw [List.append_nil]
    exact hfirst
  | step _ hstep ih =>
    rw [← List.append_assoc]
    exact ih.step hstep

/-! ### Records stay -/

namespace Operation

variable (now) (operation : Operation α)

theorem workflowChange?_stepped {operation : Operation α} {change : Workflow → Option Workflow}
    {workflow changed : Workflow} (hchange : operation.workflowChange? now = some (id, change))
    (hnext : change workflow = some changed) : workflow.Stepped now changed := by
  cases operation with
  | advance =>
    obtain ⟨rfl, rfl⟩ := Prod.mk.inj (Option.some.inj hchange)
    exact .advanced hnext
  | finish =>
    obtain ⟨rfl, rfl⟩ := Prod.mk.inj (Option.some.inj hchange)
    exact .finished hnext
  | _ => cases hchange

/-- A stored workflow stays stored, as it was or after one of the changes there are. -/
theorem workflow_kept {workflow : Workflow} (hstored : store.workflows.get? id = some workflow) :
    ∃ after, (operation.perform now store).2.workflows.get? id = some after ∧
      (after = workflow ∨ workflow.Stepped now after) := by
  by_cases hold : operation.creates = false
  · cases hchange : operation.workflowChange? now with
    | none =>
      rw [perform_workflows hchange hold]
      exact ⟨workflow, hstored, .inl rfl⟩
    | some named =>
      rw [perform_workflowChange hchange, get?_changeWorkflow]
      split
      · rename_i hnamed
        rw [← hnamed, hstored, Option.map_some]
        cases hnext : named.2 workflow with
        | none => exact ⟨workflow, rfl, .inl rfl⟩
        | some after => exact ⟨after, rfl, .inr (workflowChange?_stepped now hchange hnext)⟩
      · exact ⟨workflow, hstored, .inl rfl⟩
  · cases operation with
    | createWorkflow added task =>
      refine ⟨workflow, ?_, .inl rfl⟩
      rcases createWorkflow_cases store added task with hsame | ⟨hnone, _, hadded⟩
      · rw [perform, hsame, hstored]
      · have hother : id ≠ added.id := by
          intro heq
          rw [← heq, hstored] at hnone
          cases hnone
        rw [perform, hadded, SortedMap.get?_insert_of_ne _ _ _ hother, hstored]
    | _ => exact absurd rfl hold

/-- A stored task stays stored, as it was or after one of the changes there are. -/
theorem task_kept {task : Task} (hstored : store.tasks.get? id = some task) :
    ∃ after, (operation.perform now store).2.tasks.get? id = some after ∧
      (after = task ∨ task.Written now after) := by
  by_cases hold : operation.creates = false
  · cases hchange : operation.taskChange? now with
    | none =>
      rw [perform_tasks hchange hold]
      exact ⟨task, hstored, .inl rfl⟩
    | some named =>
      rw [perform_taskChange hchange, get?_changeTask]
      split
      · rename_i hnamed
        rw [← hnamed, hstored, Option.map_some]
        cases hnext : named.2 task with
        | none => exact ⟨task, rfl, .inl rfl⟩
        | some after => exact ⟨after, rfl, .inr (taskChange?_written hchange hnext)⟩
      · exact ⟨task, hstored, .inl rfl⟩
  · cases operation with
    | createWorkflow workflow added =>
      refine ⟨task, ?_, .inl rfl⟩
      rcases createWorkflow_cases store workflow added with hsame | ⟨_, hnone, hadded⟩
      · rw [perform, hsame, hstored]
      · have hother : id ≠ added.id := by
          intro heq
          rw [← heq, hstored] at hnone
          cases hnone
        rw [perform, hadded, SortedMap.get?_insert_of_ne _ _ _ hother, hstored]
    | _ => exact absurd rfl hold

end Operation

theorem Step.workflow_kept {workflow : Workflow} (step : store.Step event next)
    (hstored : store.workflows.get? id = some workflow) :
    ∃ after, next.workflows.get? id = some after ∧
      (after = workflow ∨ ∃ now, workflow.Stepped now after) := by
  cases step with
  | perform now operation =>
    obtain ⟨after, hafter, hsame | hstepped⟩ := operation.workflow_kept now hstored
    · exact ⟨after, hafter, .inl hsame⟩
    · exact ⟨after, hafter, .inr ⟨now, hstepped⟩⟩
  | putRule | putTemplate | putFile | putCode => exact ⟨workflow, hstored, .inl rfl⟩

theorem Step.task_kept {task : Task} (step : store.Step event next)
    (hstored : store.tasks.get? id = some task) :
    ∃ after, next.tasks.get? id = some after ∧
      (after = task ∨ ∃ now, task.Written now after) := by
  cases step with
  | perform now operation =>
    obtain ⟨after, hafter, hsame | hwritten⟩ := operation.task_kept now hstored
    · exact ⟨after, hafter, .inl hsame⟩
    · exact ⟨after, hafter, .inr ⟨now, hwritten⟩⟩
  | putRule | putTemplate | putFile | putCode => exact ⟨task, hstored, .inl rfl⟩

end Store

end ScanFlow
