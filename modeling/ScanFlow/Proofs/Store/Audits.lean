import Mathlib.Data.Finset.Card
import ScanFlow.Proofs.Store.Groups
import ScanFlow.Proofs.Store.History

/-!
The decisions that a store keeps about the findings of a task.

A decision stands with its finding, and the task carries their number. The store counts them over
all findings at once; a finding is counted for its task if it carries a decision, however often
that has been replaced.
-/

namespace ScanFlow.Store

variable {α : Type} {store next : Store} {id taskId : Uuid}

/-! ### Findings under their own identifiers -/

def Indexed (store : Store) : Prop :=
  ∀ id finding, store.findings.get? id = some finding → finding.id = id

theorem Indexed.perform (hindexed : store.Indexed) (now : Timestamp) (operation : Operation α) :
    (operation.perform now store).2.Indexed := by
  intro id finding hstored
  rw [(operation.perform_groups now store).2] at hstored
  cases operation with
  | insertGroups taskId reports =>
    simp only [Operation.onFindings] at hstored
    split at hstored
    · rcases SortedMap.of_get?_foldl_insert Finding.id (fun finding => finding) _ _ hstored with
        hold | ⟨record, _, hid, rfl⟩
      · exact hindexed id finding hold
      · exact hid
    · exact hindexed id finding hstored
  | deleteGroups taskId groupIds =>
    simp only [Operation.onFindings, SortedMap.get?_eraseAll] at hstored
    split at hstored
    · cases hstored
    · exact hindexed id finding hstored
  | setAudit named audit =>
    simp only [Operation.onFindings] at hstored
    split at hstored
    · rename_i before hbefore
      rw [SortedMap.get?_insert] at hstored
      split at hstored
      · rename_i hsame
        cases hstored
        exact (hindexed named before hbefore).trans hsame.symm
      · exact hindexed id finding hstored
    · exact hindexed id finding hstored
  | _ => exact hindexed id finding hstored

/-- Whatever has been called before, findings stand under their own identifiers. -/
theorem Ran.indexed {history : List StoreEvent} (hran : Store.empty.Ran history store) :
    store.Indexed := by
  induction hran with
  | start => exact fun _ _ hstored => nomatch hstored
  | step _ hstep ih =>
    cases hstep with
    | perform now operation => exact ih.perform now operation
    | putRule | putTemplate | putFile | putCode => exact ih

/-! ### Counting decisions -/

def audited (store : Store) (taskId : Uuid) : Finset Uuid :=
  ((store.findings.entries.filter fun entry =>
    entry.2.taskId = taskId && entry.2.audit.isSome).map Prod.fst).toFinset

theorem mem_audited :
    id ∈ store.audited taskId ↔ ∃ finding, store.findings.get? id = some finding ∧
      finding.taskId = taskId ∧ finding.audit.isSome := by
  simp only [audited, List.mem_toFinset, List.mem_map, List.mem_filter, Bool.and_eq_true,
    decide_eq_true_eq]
  constructor
  · rintro ⟨⟨_, finding⟩, ⟨member, hown⟩, rfl⟩
    exact ⟨finding, SortedMap.mem_entries_iff.mp member, hown⟩
  · rintro ⟨finding, hstored, hown⟩
    exact ⟨(id, finding), ⟨SortedMap.mem_entries_iff.mpr hstored, hown⟩, rfl⟩

/-- The store counts each finding once. -/
theorem countAudited_eq_card (store : Store) (taskId : Uuid) :
    store.countAudited taskId = (store.audited taskId).card := by
  have hkeys : ((store.findings.entries.filter fun entry =>
      entry.2.taskId = taskId && entry.2.audit.isSome).map Prod.fst).Nodup :=
    store.findings.keys_nodup.sublist (List.filter_sublist.map Prod.fst)
  rw [audited, List.toFinset_card_of_nodup hkeys, List.length_map, countAudited, SortedMap.values,
    List.filter_map, List.length_map]
  rfl

def CountsAudits (store : Store) (taskId : Uuid) : Prop :=
  ∃ task, store.tasks.get? taskId = some task ∧ task.auditCount = (store.audited taskId).card

theorem audited_congr (hfindings : next.findings = store.findings) (taskId : Uuid) :
    next.audited taskId = store.audited taskId := by
  rw [audited, audited, hfindings]

theorem setAudit_answer (store : Store) (id : Uuid) (audit : Audit) :
    (store.setAudit id audit).1 = (store.findings.get? id).isSome := by
  unfold setAudit
  cases store.findings.get? id with
  | none => rfl
  | some finding => rfl

/-- A finding of the task is one of those with a decision, once there is one. -/
theorem audited_setAudit {finding : Finding} (hstored : store.findings.get? id = some finding)
    (htask : finding.taskId = taskId) (audit : Audit) :
    (store.setAudit id audit).2.audited taskId = insert id (store.audited taskId) := by
  ext other
  rw [Finset.mem_insert, mem_audited, mem_audited, setAudit, hstored]
  dsimp only
  rw [SortedMap.get?_insert]
  split
  · rename_i hsame
    exact ⟨fun _ => Or.inl hsame, fun _ => ⟨_, rfl, htask, rfl⟩⟩
  · rename_i hother
    exact ⟨Or.inr, fun h => h.resolve_left hother⟩

/-- A decision can be replaced, but not taken back. -/
theorem audited_subset_setAudit (store : Store) (id : Uuid) (audit : Audit) (taskId : Uuid) :
    store.audited taskId ⊆ (store.setAudit id audit).2.audited taskId := by
  intro other member
  obtain ⟨finding, hstored, hown⟩ := mem_audited.mp member
  rw [mem_audited, setAudit]
  split
  · rename_i before hbefore
    dsimp only
    rw [SortedMap.get?_insert]
    split
    · rename_i hsame
      rw [hsame, hbefore, Option.some.injEq] at hstored
      exact ⟨_, rfl, hstored ▸ hown.1, rfl⟩
    · exact ⟨finding, hstored, hown⟩
  · exact ⟨finding, hstored, hown⟩

end ScanFlow.Store
