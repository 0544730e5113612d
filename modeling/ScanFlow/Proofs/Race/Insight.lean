import ScanFlow.Proofs.Program.Whole

/-!
What a program has found out, and can still rely on later.

Between two calls of a program others may change every record that it has read. Some facts
are not taken away by any call: the shape and the limits of a workflow, that its stages are
behind it, the artifact and the snapshot that are bound to a task. Such a fact is an insight. A
program gains insights from the answers to its calls, and two kinds of them can be gained once
only: that one has created a workflow, and that one has bound a snapshot.
-/

namespace ScanFlow

inductive Insight where
  | workflow (copy : Workflow)
  | stopped (id : Uuid)
  | task (copy : Task)
  | created (id : Uuid)
  | bound (taskId : Uuid) (snapshot : TemplateSnapshot)
  | issued (key : String) (lifetime : Nat) (url : String)

namespace Insight

/-- The insight is right. A copy of a record is right about what does not change any more, and
a URL is right about the moment of its issue. -/
def Holds (system : System) : Insight → Prop
  | workflow copy =>
    ∃ stored, system.store.workflows.get? copy.id = some stored ∧
      stored.fixed = copy.fixed ∧ stored.limits = copy.limits
  | stopped id =>
    ∃ stored, system.store.workflows.get? id = some stored ∧
      (stored.isRunning = false ∨ stored.isFullyProgressed = true)
  | task copy =>
    ∃ stored, system.store.tasks.get? copy.id = some stored ∧
      ∀ key, copy.targetKey = some key → stored.targetKey = some key
  | created id => ∃ stored, system.store.workflows.get? id = some stored ∧ stored.id = id
  | bound taskId snapshot =>
    ∃ stored, system.store.tasks.get? taskId = some stored ∧ stored.snapshot = some snapshot
  | issued _ _ _ => True

def Exclusive : Insight → Prop
  | created _ | bound _ _ => True
  | _ => False

end Insight

namespace Call

variable {β : Type} {system : System} {env : Environment}

/-- What every operation leaves true of a stored workflow, every call leaves true of it. -/
theorem workflow_kept (call : Call β) (env : Environment) (hkeyed : system.store.Keyed)
    {point : Workflow → Prop}
    (hpoint : ∀ {α : Type} (operation : Store.Operation α) now workflow,
      point workflow → point (operation.onWorkflow now workflow)) {id : Uuid}
    (h : ∃ stored, system.store.workflows.get? id = some stored ∧ point stored) :
    ∃ stored, (call.perform env system).2.store.workflows.get? id = some stored ∧
      point stored := by
  refine (call.preserves_store env (fun store =>
    store.Keyed ∧ ∃ stored, store.workflows.get? id = some stored ∧ point stored) ?_ ⟨hkeyed, h⟩).2
  rintro α operation now store ⟨hkeyed, stored, hstored, hholds⟩
  obtain rfl := hkeyed.workflows id stored hstored
  exact ⟨hkeyed.perform operation, _, operation.get?_perform_workflow now hkeyed hstored,
    hpoint operation now stored hholds⟩

/-- What every operation leaves true of a stored task, every call leaves true of it. -/
theorem task_kept (call : Call β) (env : Environment) (hkeyed : system.store.Keyed)
    {point : Task → Prop}
    (hpoint : ∀ {α : Type} (operation : Store.Operation α) now task,
      point task → point (operation.onTask now task)) {id : Uuid}
    (h : ∃ stored, system.store.tasks.get? id = some stored ∧ point stored) :
    ∃ stored, (call.perform env system).2.store.tasks.get? id = some stored ∧ point stored := by
  refine (call.preserves_store env (fun store =>
    store.Keyed ∧ ∃ stored, store.tasks.get? id = some stored ∧ point stored) ?_ ⟨hkeyed, h⟩).2
  rintro α operation now store ⟨hkeyed, stored, hstored, hholds⟩
  obtain rfl := hkeyed.tasks id stored hstored
  exact ⟨hkeyed.perform operation, _, operation.get?_perform_task now hkeyed hstored,
    hpoint operation now stored hholds⟩

end Call

namespace Insight

variable {β : Type} {system : System} {env : Environment} {insight : Insight}

/-- An insight is not lost, whatever others do. -/
theorem Holds.perform (call : Call β) (env : Environment) (hkeyed : system.store.Keyed)
    (h : insight.Holds system) : insight.Holds (call.perform env system).2 := by
  cases insight with
  | workflow copy =>
    apply call.workflow_kept env hkeyed _ h
    rintro α operation now stored ⟨hfixed, hlimits⟩
    exact ⟨(operation.onWorkflow_fixed now stored).trans hfixed,
      (operation.onWorkflow_limits now stored).trans hlimits⟩
  | stopped id =>
    exact call.workflow_kept env hkeyed
      (fun operation now _ hstopped => operation.onWorkflow_stopped now hstopped) h
  | task copy =>
    apply call.task_kept env hkeyed _ h
    intro α operation now stored hkey key hcopy
    exact operation.onTask_targetKey now (hkey key hcopy)
  | created id =>
    apply call.workflow_kept env hkeyed _ h
    intro α operation now stored hid
    exact (operation.onWorkflow_id now stored).trans hid
  | bound taskId snapshot =>
    exact call.task_kept env hkeyed
      (fun operation now _ hsnapshot => operation.onTask_snapshot now hsnapshot) h
  | issued => trivial

end Insight

/-! ### What answers tell -/

/-- What the answer to a call tells a program with these insights. -/
inductive Call.Reveals (insights : List Insight) :
    {β : Type} → Call β → β → Insight → Prop where
  | found {id : Uuid} {copy : Workflow} :
      Reveals insights (.store (.findWorkflow id)) (some copy) (.workflow copy)
  | advanced {id : Uuid} {moment : Timestamp} {copy : Workflow} :
      Reveals insights (.store (.advance id moment)) (some copy) (.workflow copy)
  | refused {copy : Workflow} {moment : Timestamp} (h : .workflow copy ∈ insights) :
      Reveals insights (.store (.advance copy.id moment)) none (.stopped copy.id)
  | task {id : Uuid} {copy : Task} :
      Reveals insights (.store (.findTask id)) (some copy) (.task copy)
  | created {workflow : Workflow} {task : Task} :
      Reveals insights (.store (.createWorkflow workflow task)) (.ok ()) (.created workflow.id)
  | copied {workflow : Workflow} {task : Task} :
      Reveals insights (.store (.createWorkflow workflow task)) (.ok ()) (.workflow workflow)
  | bound {id : Uuid} {binding : AnalysisBinding} :
      Reveals insights (.store (.bindAnalysis id binding)) true (.bound id binding.snapshot)
  | issued {key : String} {lifetime : Nat} {url : String} :
      Reveals insights (.blobUrl key lifetime) (.ok url) (.issued key lifetime url)

namespace Call.Reveals

variable {β : Type} {call : Call β} {env : Environment} {system : System}
  {insights : List Insight} {insight : Insight}

/-- Answers tell the truth. -/
theorem holds (hkeyed : system.store.Keyed)
    (hknown : ∀ insight ∈ insights, insight.Holds system)
    (h : call.Reveals insights (call.perform env system).1 insight) :
    insight.Holds (call.perform env system).2 := by
  generalize hanswer : (call.perform env system).1 = answer at h
  cases h with
  | @found id copy =>
    have hstored : system.store.workflows.get? id = some copy := hanswer
    obtain rfl := hkeyed.workflows id copy hstored
    exact ⟨copy, hstored, rfl, rfl⟩
  | @advanced id moment copy =>
    obtain ⟨workflow, hbefore, hchange, hafter⟩ := Store.changeWorkflow_eq_some hanswer
    have hid : copy.id = id := by
      rw [(Workflow.advanced?_eq_some hchange).2.2]
      exact hkeyed.workflows id workflow hbefore
    exact ⟨copy, hid ▸ hafter, rfl, rfl⟩
  | @refused copy moment hcopy =>
    obtain ⟨stored, hstored, _⟩ := hknown _ hcopy
    have hnone := (Store.changeWorkflow_answer hstored _).symm.trans hanswer
    have hsame : (system.store.changeWorkflow copy.id fun workflow =>
        workflow.advanced? moment).2.workflows.get? copy.id = some stored := by
      rw [Store.get?_changeWorkflow, if_pos rfl, hstored, Option.map_some, hnone, Option.getD_none]
    refine ⟨stored, hsame, ?_⟩
    rw [Workflow.advanced?] at hnone
    split at hnone
    · cases hnone
    · rename_i hguard
      cases hrunning : stored.isRunning with
      | false => exact Or.inl rfl
      | true => exact Or.inr (by simpa [hrunning] using hguard)
  | @task id copy =>
    have hstored : system.store.tasks.get? id = some copy := hanswer
    obtain rfl := hkeyed.tasks id copy hstored
    exact ⟨copy, hstored, fun _ hkey => hkey⟩
  | @created workflow task => exact ⟨workflow, (Store.createWorkflow_eq_ok hanswer).2, rfl⟩
  | @copied workflow task => exact ⟨workflow, (Store.createWorkflow_eq_ok hanswer).2, rfl, rfl⟩
  | @bound id binding =>
    obtain ⟨before, task, _, hchange, hafter⟩ := Store.changeTask_eq_true hanswer
    exact ⟨task, hafter, by rw [(Task.withAnalysis?_eq_some hchange).2]⟩
  | issued => trivial

/-- An exclusive insight could not be gained before. -/
theorem new (h : call.Reveals insights (call.perform env system).1 insight)
    (hexclusive : insight.Exclusive) : ¬ insight.Holds system := by
  generalize hanswer : (call.perform env system).1 = answer at h
  cases h with
  | created =>
    rintro ⟨stored, hstored, _⟩
    cases (Store.createWorkflow_eq_ok hanswer).1.symm.trans hstored
  | bound =>
    obtain ⟨before, _, hbefore, hchange, _⟩ := Store.changeTask_eq_true hanswer
    rintro ⟨stored, hstored, hsnapshot⟩
    rw [hbefore, Option.some.injEq] at hstored
    cases ((Task.withAnalysis?_eq_some hchange).1.symm.trans (hstored ▸ hsnapshot))
  | _ => exact hexclusive.elim

end Call.Reveals

end ScanFlow
