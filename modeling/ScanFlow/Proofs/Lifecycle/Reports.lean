import ScanFlow.Orchestrator.Process
import ScanFlow.Proofs.Store.Groups

/-!
The reports that one delivery of the static analysis stores.

A delivery takes a run of numbers at once and spends them in order, on each group and then
on its findings. All identifiers that it stores are therefore its own.
-/

namespace ScanFlow

def numbered (first count : Nat) : List Uuid := (List.range' first count).map Uuid.generated

theorem mem_numbered {first count : Nat} {id : Uuid} :
    id ∈ numbered first count ↔ ∃ n, first ≤ n ∧ n < first + count ∧ id = Uuid.generated n := by
  simp only [numbered, List.mem_map, List.mem_range'_1]
  constructor
  · rintro ⟨n, ⟨hfirst, hlast⟩, rfl⟩
    exact ⟨n, hfirst, hlast, rfl⟩
  · rintro ⟨n, hfirst, hlast, rfl⟩
    exact ⟨n, ⟨hfirst, hlast⟩, rfl⟩

theorem numbered_append (first m n : Nat) :
    numbered first m ++ numbered (first + m) n = numbered first (m + n) := by
  unfold numbered
  rw [← List.map_append, List.range'_append_1]

theorem numbered_succ (first count : Nat) :
    numbered first (count + 1) = Uuid.generated first :: numbered (first + 1) count := by
  simp [numbered, List.range'_succ]

theorem numbered_nodup (first count : Nat) : (numbered first count).Nodup := by
  refine List.Pairwise.map Uuid.generated ?_ List.nodup_range'
  intro m n hne heq
  exact hne (Uuid.generated_injective heq)

/-- The identifiers of a report, that of the group first. -/
def GroupReport.ids (report : GroupReport) : List Uuid :=
  report.group.id :: report.findings.map Finding.id

theorem storedFindings_ids (taskId : Uuid) (first : Nat) (findings : List SaFinding) :
    (storedFindings taskId first findings).map Finding.id = numbered first findings.length := by
  induction findings generalizing first with
  | nil => rfl
  | cons finding rest ih =>
    rw [storedFindings, List.map_cons, ih, List.length_cons, numbered_succ]
    rfl

def recordCount (rules : List (String × SaRuleResult)) : Nat :=
  rules.length + (rules.flatMap fun rule => rule.2.findings).length

theorem storedReports_ids (taskId : Uuid) (first : Nat) (rules : List (String × SaRuleResult)) :
    (storedReports taskId first rules).flatMap GroupReport.ids =
      numbered first (recordCount rules) := by
  induction rules generalizing first with
  | nil => rfl
  | cons rule rest ih =>
    obtain ⟨ruleId, result⟩ := rule
    have hcount : recordCount ((ruleId, result) :: rest) =
        (result.findings.length + 1) + recordCount rest := by
      simp only [recordCount, List.length_cons, List.flatMap_cons, List.length_append]
      omega
    have hfindings := storedFindings_ids taskId (first + 1) result.findings
    rw [storedReports, List.flatMap_cons, ih, hcount, ← numbered_append, numbered_succ]
    congr 1
    · simp only [GroupReport.ids, SaRuleResult.report, hfindings]
    · congr 1
      omega

theorem storedReports_ids_nodup (taskId : Uuid) (first : Nat)
    (rules : List (String × SaRuleResult)) :
    ((storedReports taskId first rules).flatMap GroupReport.ids).Nodup := by
  rw [storedReports_ids]
  exact numbered_nodup _ _

theorem storedReports_group_id {taskId : Uuid} {first : Nat}
    {rules : List (String × SaRuleResult)} {report : GroupReport}
    (member : report ∈ storedReports taskId first rules) :
    report.group.id ∈ numbered first (recordCount rules) := by
  rw [← storedReports_ids taskId]
  exact List.mem_flatMap.mpr ⟨report, member, List.mem_cons_self⟩

theorem storedReports_finding_id {taskId : Uuid} {first : Nat}
    {rules : List (String × SaRuleResult)} {finding : Finding}
    (member : finding ∈ (storedReports taskId first rules).flatMap GroupReport.findings) :
    finding.id ∈ numbered first (recordCount rules) := by
  obtain ⟨report, hreport, hfinding⟩ := List.mem_flatMap.mp member
  rw [← storedReports_ids taskId]
  have hid : finding.id ∈ report.findings.map Finding.id := List.mem_map.mpr ⟨_, hfinding, rfl⟩
  exact List.mem_flatMap.mpr ⟨report, hreport, List.mem_cons_of_mem _ hid⟩

/-- All reports are about the task, and each group names exactly its findings. -/
theorem storedReports_own {taskId : Uuid} {first : Nat} {rules : List (String × SaRuleResult)}
    {report : GroupReport} (member : report ∈ storedReports taskId first rules) :
    report.group.taskId = taskId ∧
      report.group.findingIds = report.findings.map Finding.id := by
  induction rules generalizing first with
  | nil => cases member
  | cons rule rest ih =>
    obtain ⟨ruleId, result⟩ := rule
    rcases List.mem_cons.mp member with rfl | member
    · exact ⟨rfl, rfl⟩
    · exact ih member

theorem ownReports_storedReports (taskId : Uuid) (first : Nat)
    (rules : List (String × SaRuleResult)) :
    Store.ownReports taskId (storedReports taskId first rules) = true := by
  apply List.all_eq_true.mpr
  intro report member
  simpa using (storedReports_own member).1

/-- Every stored finding has been reported. -/
theorem mem_storedFindings {taskId : Uuid} {first : Nat} {findings : List SaFinding}
    {stored : Finding} (member : stored ∈ storedFindings taskId first findings) :
    ∃ finding ∈ findings, ∃ id, stored = finding.toFinding id taskId := by
  induction findings generalizing first with
  | nil => cases member
  | cons finding rest ih =>
    rcases List.mem_cons.mp member with rfl | member
    · exact ⟨finding, List.mem_cons_self, _, rfl⟩
    · obtain ⟨reported, hreported, hstored⟩ := ih member
      exact ⟨reported, List.mem_cons_of_mem _ hreported, hstored⟩

theorem mem_storedReports {taskId : Uuid} {first : Nat} {rules : List (String × SaRuleResult)}
    {report : GroupReport} {stored : Finding} (member : report ∈ storedReports taskId first rules)
    (hstored : stored ∈ report.findings) :
    ∃ rule ∈ rules, ∃ finding ∈ rule.2.findings, ∃ id, stored = finding.toFinding id taskId := by
  induction rules generalizing first with
  | nil => cases member
  | cons rule rest ih =>
    obtain ⟨ruleId, result⟩ := rule
    rcases List.mem_cons.mp member with rfl | member
    · exact ⟨_, List.mem_cons_self, mem_storedFindings hstored⟩
    · obtain ⟨reporting, hreporting, hfinding⟩ := ih member
      exact ⟨reporting, List.mem_cons_of_mem _ hreporting, hfinding⟩

/-- The groups name as many findings as have been reported. -/
theorem storedReports_count (taskId : Uuid) (first : Nat) (rules : List (String × SaRuleResult)) :
    ((storedReports taskId first rules).flatMap fun report => report.group.findingIds).length =
      (rules.flatMap fun rule => rule.2.findings).length := by
  induction rules generalizing first with
  | nil => rfl
  | cons rule rest ih =>
    obtain ⟨ruleId, result⟩ := rule
    have hfindings := congrArg List.length (storedFindings_ids taskId (first + 1) result.findings)
    simp only [numbered, List.length_map, List.length_range'] at hfindings
    rw [storedReports, List.flatMap_cons, List.flatMap_cons, List.length_append,
      List.length_append, ih]
    simp [SaRuleResult.report, hfindings]

end ScanFlow
