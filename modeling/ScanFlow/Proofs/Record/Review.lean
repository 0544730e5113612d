import ScanFlow.Proofs.Record.Orderly

/-!
What reviewers do to a task.

A decision about a finding changes nothing that a merge reads. A manual merge replaces the
summary of its task, or it fails and nothing is written.
-/

namespace ScanFlow

/-- Decisions, and the registration of an archive, leave all groups as they are. -/
theorem Call.Slight.groups {α : Type} {call : Call α} (hslight : call.Slight) (env : Environment)
    (system : System) : (call.perform env system).2.store.groups = system.store.groups := by
  cases call with
  | clock | reserve | blobExists | blobUrl => rfl
  | publish queue payload =>
    simp only [Call.perform, System.publish]
    split
    · rfl
    · rfl
  | store operation =>
    have hgroups := (operation.perform_groups env.now system.store).1
    refine hgroups.trans ?_
    cases operation with
    | insertGroups | deleteGroups => exact hslight.elim
    | _ => rfl

namespace System

variable {system final : System} {scene : Scene}

/-- Deciding about a finding leaves it as it is otherwise. -/
theorem setAudit_unaudited (groups : List FindingGroup) (findings : Table Finding) (id : Uuid)
    (audit : Audit) (other : Uuid) :
    (((Store.Operation.setAudit id audit).onFindings groups findings).get? other).map
        Finding.unaudited =
      (findings.get? other).map Finding.unaudited := by
  unfold Store.Operation.onFindings
  dsimp only
  cases hfound : findings.get? id with
  | none => rfl
  | some finding =>
    dsimp only
    by_cases hsame : other = id
    · subst hsame
      rw [SortedMap.get?_insert_self, hfound]
      rfl
    · rw [SortedMap.get?_insert_of_ne _ _ _ hsame]

/-- A slight call changes nothing of a scene but decisions and their number. -/
theorem Shows.slight {α : Type} {call : Call α} (hslight : call.Slight)
    (hshows : system.Shows scene) (env : Environment) :
    ∃ after, (call.perform env system).2.Shows after ∧ after.workflow = scene.workflow ∧
      scene.Same after := by
  obtain ⟨after, hmoves, hafter⟩ := hshows.perform env call
  refine ⟨after, hafter, ?_⟩
  rcases hmoves.cases with ⟨nextNumber, rfl⟩ | ⟨operation, rfl, _, rfl⟩
  · exact ⟨rfl, rfl, rfl, fun _ _ _ _ => rfl⟩
  · cases operation with
    | setAudit id audit =>
      exact ⟨rfl, rfl, rfl, fun _ _ other _ => setAudit_unaudited scene.groups _ id audit other⟩
    | setAuditCount id count =>
      by_cases hid : id = scene.task.id
      · subst hid
        rw [Scene.after_taskChange rfl]
        exact ⟨rfl, rfl, rfl, fun _ _ _ _ => rfl⟩
      · have hsame : scene.after env.now (.setAuditCount id count) = scene := by
          unfold Scene.after
          have htask : (Store.Operation.setAuditCount id count).onTask env.now scene.task =
              scene.task := if_neg hid
          rw [htask]
          rfl
        rw [hsame]
        exact ⟨rfl, .refl scene⟩
    | createWorkflow | advance | finish | setArtifact | bindAnalysis | moveSa | moveMl
    | claimMerge | storeSummary | insertGroups | deleteGroups | registerCompiled =>
      exact hslight.elim
    | _ => exact ⟨rfl, .refl scene⟩

theorem Shows.runs_slight {α : Type} {program : Program α} {outcome : Except ServiceError α}
    (hslight : program.Only Call.Slight) (hruns : program.Runs system outcome final)
    (hshows : system.Shows scene) :
    ∃ after, final.Shows after ∧ after.workflow = scene.workflow ∧ scene.Same after := by
  refine hruns.preserves (fun system => ∃ after, system.Shows after ∧
    after.workflow = scene.workflow ∧ scene.Same after) ?_ hslight
      ⟨scene, hshows, rfl, .refl scene⟩
  rintro β call env met hslight ⟨between, hbetween, hworkflow, hsame⟩
  obtain ⟨after, hafter, hstill, hnext⟩ := hbetween.slight hslight env
  exact ⟨after, hafter, hstill.trans hworkflow, hsame.trans hnext⟩

end System

namespace Orchestrator

open Program

variable {o : Orchestrator} {system : System}

def reportsOf (store : Store) (task : Task) : List GroupReport :=
  pickReports (store.groupReports task.id) task.sa.resultIds

inductive Remerges (o : Orchestrator) (system : System) (taskId : Uuid) :
    Except ServiceError Summary → System → Prop where
  /-- The engines have not both succeeded, or their results cannot be merged. -/
  | refused (e : ServiceError)
      (h : ∀ task, system.store.tasks.get? taskId = some task → task.bothSucceeded = true →
        ∃ fault, o.mergeRecords task (reportsOf system.store task) = .error fault) :
      Remerges o system taskId (.error e) system
  | replaced {task : Task} {records : List MergeRecord} (moment now : Timestamp)
      (hstored : system.store.tasks.get? taskId = some task)
      (hboth : task.bothSucceeded = true)
      (hrecords : o.mergeRecords task (reportsOf system.store task) = .ok records) :
      Remerges o system taskId (.ok (.ofResults records moment))
        { system with store := { system.store with
          tasks := system.store.tasks.insert taskId
            (task.withSummary (.ofResults records moment) records.length now) } }

/-- A summary is stored in one write. -/
theorem storeSummary_perform {store : Store} {task : Task}
    (hstored : store.tasks.get? task.id = some task) (summary : Summary) (count : Nat)
    (now : Timestamp) :
    (Store.Operation.storeSummary task.id summary count).perform now store =
      (.ok (), { store with
        tasks := store.tasks.insert task.id (task.withSummary summary count now) }) := by
  have hknown : store.tasks.contains task.id = true := SortedMap.contains_iff.mpr ⟨task, hstored⟩
  simp [Store.Operation.perform, Store.accepted, Store.changeKnownTask, Store.changeTask, hknown,
    hstored, Except.map]

theorem readReports_through {task : Task}
    {post : Except ServiceError (List GroupReport) → System → Prop}
    (h : post (.ok (reportsOf system.store task)) system) :
    (loadReports task).Through (fun _ => True) system post := by
  rw [loadReports, through_bind]
  refine through_read (fun _ _ => rfl) trivial ?_
  intro _
  exact h

theorem mergeTask_through {task : Task} (hstored : system.store.tasks.get? task.id = some task) :
    (o.mergeTask task.id).Through (fun _ => True) system (o.Remerges system task.id) := by
  have hsame : ∀ other, system.store.tasks.get? task.id = some other → other = task :=
    fun other hother => Option.some.inj (hother.symm.trans hstored)
  unfold mergeTask
  rw [through_bind, Program.task, require, through_bind]
  refine through_read (fun _ _ => rfl) trivial ?_
  intro _
  rw [Store.Operation.perform, hstored]
  unfold Rest
  dsimp only
  change Through _ (if _ then _ else _) _ _
  split
  · rename_i hnot
    refine .refused _ ?_
    intro other hother hboth
    rw [hsame other hother] at hboth
    simp [hboth] at hnot
  rename_i hboth
  have hboth : task.bothSucceeded = true := by simpa using hboth
  rw [through_bind]
  apply readReports_through
  unfold Rest
  dsimp only
  cases hrecords : o.mergeRecords task (reportsOf system.store task) with
  | error e =>
    refine .refused _ ?_
    intro other hother _
    rw [hsame other hother]
    exact ⟨e, hrecords⟩
  | ok records =>
    dsimp only
    rw [through_bind]
    apply through_clock trivial
    intro moment
    unfold Rest
    dsimp only
    rw [through_bind, storeOr, through_bind]
    intro env
    refine ⟨trivial, ?_⟩
    dsimp only [Call.perform]
    rw [storeSummary_perform hstored]
    exact .replaced moment env.now hstored hboth hrecords

/-- A manual merge replaces the summary by the merged records, or it fails and leaves the system
as it is. -/
theorem remerge_through (hkeyed : system.store.Keyed) (taskId : Uuid) :
    (o.remerge taskId).Through (fun _ => True) system (o.Remerges system taskId) := by
  unfold remerge
  rw [through_bind, Program.task, require, through_bind]
  refine through_read (fun _ _ => rfl) trivial ?_
  intro _
  rw [Store.Operation.perform]
  cases hstored : system.store.tasks.get? taskId with
  | none =>
    refine .refused _ ?_
    intro task htask
    rw [hstored] at htask
    cases htask
  | some task =>
    have hid := hkeyed.tasks taskId task hstored
    unfold Rest
    dsimp only
    change Through _ (if _ then _ else _) _ _
    split
    · rename_i hnot
      refine .refused _ ?_
      intro other hother hboth
      rw [hstored, Option.some.injEq] at hother
      rw [← hother] at hboth
      simp [hboth] at hnot
    · subst hid
      exact mergeTask_through hstored

end Orchestrator

end ScanFlow
