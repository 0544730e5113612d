import ScanFlow.Proofs.Store.Effect

/-!
What one operation of the store makes of the groups and the findings.

Groups are added at the end of the list and taken away by their task and identifier. A
finding is found by its identifier alone; it comes and goes with the group that names it.
-/

namespace ScanFlow.Store

variable {α : Type} {store : Store} {now : Timestamp}

def ownReports (taskId : Uuid) (reports : List GroupReport) : Bool :=
  reports.all fun report => report.group.taskId = taskId

theorem insertGroups_own {taskId : Uuid} {reports : List GroupReport}
    (hown : ownReports taskId reports = true) :
    store.insertGroups taskId reports =
      (.ok (),
        { store with
          findings := (reports.flatMap GroupReport.findings).foldl
            (fun table f => table.insert f.id f) store.findings
          groups := store.groups ++ reports.map GroupReport.group }) := by
  have hnone : (reports.find? fun report => report.group.taskId ≠ taskId) = none := by
    rw [List.find?_eq_none]
    intro report member
    simpa using List.all_eq_true.mp hown report member
  simp only [insertGroups, hnone]

theorem insertGroups_foreign {taskId : Uuid} {reports : List GroupReport}
    (hforeign : ownReports taskId reports = false) :
    (store.insertGroups taskId reports).2 = store := by
  unfold insertGroups
  split
  · rfl
  · rename_i hnone
    rw [List.find?_eq_none] at hnone
    have hown : ownReports taskId reports = true := by
      apply List.all_eq_true.mpr
      intro report member
      simpa using hnone report member
    rw [hown] at hforeign
    cases hforeign

namespace Operation

def onGroups (operation : Operation α) (groups : List FindingGroup) : List FindingGroup :=
  match operation with
  | .insertGroups taskId reports =>
    if ownReports taskId reports then groups ++ reports.map GroupReport.group else groups
  | .deleteGroups taskId groupIds => groups.filter fun group => !isNamed taskId groupIds group
  | _ => groups

def onFindings (operation : Operation α) (groups : List FindingGroup)
    (findings : Table Finding) : Table Finding :=
  match operation with
  | .insertGroups taskId reports =>
    if ownReports taskId reports then
      (reports.flatMap GroupReport.findings).foldl (fun table f => table.insert f.id f) findings
    else findings
  | .deleteGroups taskId groupIds =>
    findings.eraseAll
      ((groups.filter (isNamed taskId groupIds)).flatMap FindingGroup.findingIds)
  | .setAudit id audit =>
    match findings.get? id with
    | some finding => findings.insert id { finding with audit := some audit }
    | none => findings
  | _ => findings

theorem perform_groups (now : Timestamp) (operation : Operation α) (store : Store) :
    (operation.perform now store).2.groups = operation.onGroups store.groups ∧
      (operation.perform now store).2.findings =
        operation.onFindings store.groups store.findings := by
  cases operation with
  | insertGroups taskId reports =>
    by_cases hown : ownReports taskId reports = true
    · simp [perform, onGroups, onFindings, hown, insertGroups_own hown]
    · have hforeign : ownReports taskId reports = false := by simpa using hown
      simp [perform, onGroups, onFindings, hforeign, insertGroups_foreign hforeign]
  | setAudit id audit =>
    simp only [perform, Store.setAudit, onGroups, onFindings]
    cases store.findings.get? id with
    | none => exact ⟨rfl, rfl⟩
    | some finding => exact ⟨rfl, rfl⟩
  | createWorkflow workflow task =>
    rcases createWorkflow_cases store workflow task with hsame | ⟨_, _, hadded⟩
    · simp [perform, hsame, onGroups, onFindings]
    · simp [perform, hadded, onGroups, onFindings]
  | advance | finish =>
    obtain ⟨workflows, hrest⟩ := changeWorkflow_rest store _ _
    rw [perform_workflowChange rfl, hrest]
    exact ⟨rfl, rfl⟩
  | setArtifact | storeSummary | setAuditCount | bindAnalysis | moveSa | moveMl | claimMerge =>
    obtain ⟨tasks, hrest⟩ := changeTask_rest store _ _
    rw [perform_taskChange rfl, hrest]
    exact ⟨rfl, rfl⟩
  | registerCompiled codeId file =>
    obtain ⟨codes, files, hrest⟩ := registerCompiled_rest store codeId file
    simp [perform, hrest, onGroups, onFindings]
  | _ => exact ⟨rfl, rfl⟩

end Operation

end ScanFlow.Store
