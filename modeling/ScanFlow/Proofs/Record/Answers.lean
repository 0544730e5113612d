import ScanFlow.Proofs.Race.Deliveries
import ScanFlow.Proofs.Record.Orderly

/-!
Answers of the engines keep records in order.

An answer ends a run and lists its findings; settling then merges what there is to be merged,
and a dispatch for want of rules ends the runs that are left. Each of these steps keeps the
records of the task in agreement, and after the merge has been tried, nothing that could be
merged is left.
-/

namespace ScanFlow

/-! ### Tasks -/

namespace Task.Consistent

variable {task : Task} {succeeded : Bool}

theorem unclaimed_of_awaitsSa (h : task.Consistent)
    (hmay : task.sa.status.canBecome (.ofSuccess succeeded) = true) :
    task.mergeClaimed = false := by
  apply h.unclaimed_of_open
  rw [Task.bothTerminal, RunStatus.open_of_canBecome hmay]
  rfl

theorem unclaimed_of_awaitsMl (h : task.Consistent)
    (hmay : task.ml.status.canBecome (.ofSuccess succeeded) = true) :
    task.mergeClaimed = false := by
  apply h.unclaimed_of_open
  rw [Task.bothTerminal, RunStatus.open_of_canBecome hmay]
  exact Bool.and_false _

theorem saEnded (h : task.Consistent) {ids : List Uuid} {count : Nat}
    (hmay : task.sa.status.canBecome (.ofSuccess succeeded) = true)
    (hnone : succeeded = false → ids = []) : (task.saEnded succeeded ids count).Consistent where
  sa := h.sa.finish hmay
  ml := h.ml
  unlisted := by
    intro hfailed
    apply hnone
    rw [← Bool.not_eq_true]
    rintro rfl
    exact hfailed rfl
  report := h.report
  unreported := h.unreported
  claimed := by
    intro hclaimed
    cases (h.unclaimed_of_awaitsSa hmay).symm.trans hclaimed
  unmerged := fun hunclaimed => ⟨(h.unmerged hunclaimed).1, rfl⟩

theorem mlEnded (h : task.Consistent) {raw : Option MlReport}
    (hmay : task.ml.status.canBecome (.ofSuccess succeeded) = true)
    (hsome : succeeded = true → ∃ report, raw = some report ∧ report.Probable)
    (hnone : succeeded = false → raw = none) : (task.mlEnded succeeded raw).Consistent where
  sa := h.sa
  ml := h.ml.finish hmay
  unlisted := h.unlisted
  report := by
    intro hsuccess
    cases succeeded with
    | true => exact hsome rfl
    | false => cases hsuccess
  unreported := by
    intro hfailed
    cases succeeded with
    | true => exact absurd rfl hfailed
    | false => exact hnone rfl
  claimed := by
    intro hclaimed
    cases (h.unclaimed_of_awaitsMl hmay).symm.trans hclaimed
  unmerged := h.unmerged

theorem saGivenUp (h : task.Consistent) : task.saGivenUp.Consistent := by
  unfold Task.saGivenUp
  split
  · exact h
  · rename_i hopen
    exact h.saEnded (Orchestrator.canBecome_exception (by simpa using hopen)) fun _ => rfl

theorem mlGivenUp (h : task.Consistent) : task.mlGivenUp.Consistent := by
  unfold Task.mlGivenUp
  split
  · rename_i hopen
    simp only [Bool.and_eq_true, Bool.not_eq_true'] at hopen
    exact h.mlEnded (Orchestrator.canBecome_exception hopen.2) nofun fun _ => rfl
  · exact h

theorem givenUp (h : task.Consistent) : task.givenUp.Consistent := h.saGivenUp.mlGivenUp

end Task.Consistent

/-- Giving up leaves a task as it is, or makes a success of both engines impossible. -/
theorem Task.givenUp_cases (task : Task) :
    task.givenUp = task ∨ task.givenUp.bothSucceeded = false := by
  have hml : task.saGivenUp.mlGivenUp = task.saGivenUp ∨
      task.saGivenUp.mlGivenUp.bothSucceeded = false := by
    unfold mlGivenUp
    split
    · exact Or.inr (by simp [bothSucceeded, mlEnded, RunStatus.ofSuccess])
    · exact Or.inl rfl
  by_cases hterminal : task.sa.status.isTerminal = true
  · have hsame : task.saGivenUp = task := if_pos hterminal
    rw [hsame] at hml
    unfold givenUp
    rw [hsame]
    exact hml
  · refine Or.inr ?_
    unfold givenUp saGivenUp mlGivenUp
    rw [if_neg hterminal]
    split
    · simp [bothSucceeded, saEnded, mlEnded, RunStatus.ofSuccess]
    · simp [bothSucceeded, saEnded, RunStatus.ofSuccess]

namespace Orchestrator

variable {o : Orchestrator} {task : Task} {reports : List GroupReport}

/-- Trying the merge leaves a task as it is, or claims the merge with the merged records. -/
theorem merged_cases (o : Orchestrator) (task : Task) (reports : List GroupReport) :
    o.merged task reports = task ∧
        (task.mergeClaimed = false → task.bothSucceeded = true → task.kind = some .saMl →
          ∃ e, o.mergeRecords task reports = .error e) ∨
      ∃ records, o.mergeRecords task reports = .ok records ∧ task.mergeClaimed = false ∧
        task.bothSucceeded = true ∧
          o.merged task reports =
            { task with
              summary := .ofResults records task.updatedAt
              weaknessCount := records.length
              mergeClaimed := true } := by
  by_cases hclaimed : task.mergeClaimed = true
  · exact Or.inl ⟨merged_of_claimed hclaimed, fun hunclaimed => by simp [hclaimed] at hunclaimed⟩
  by_cases hboth : task.bothSucceeded = true
  · by_cases hkind : task.kind = some .saMl
    · cases hrecords : o.mergeRecords task reports with
      | error e =>
        refine Or.inl ⟨?_, fun _ _ _ => ⟨e, rfl⟩⟩
        rw [merged, hkind, hrecords]
      | ok records =>
        have hunclaimed : task.mergeClaimed = false := by simpa using hclaimed
        refine Or.inr ⟨records, rfl, hunclaimed, hboth, ?_⟩
        rw [merged, hkind, hrecords]
        simp [Task.withClaim?, hunclaimed, hboth, Task.withSummary, hkind]
    · exact Or.inl ⟨merged_of_kind hkind, fun _ _ hsame => absurd hsame hkind⟩
  · refine Or.inl ⟨merged_of_not_both (by simpa using hboth), fun _ hsame => absurd hsame hboth⟩

theorem consistent_merged (h : task.Consistent) : (o.merged task reports).Consistent := by
  rcases merged_cases o task reports with ⟨hsame, _⟩ | ⟨records, _, _, hboth, hmerged⟩
  · rw [hsame]
    exact h
  · rw [hmerged]
    exact
      { sa := h.sa
        ml := h.ml
        unlisted := h.unlisted
        report := h.report
        unreported := h.unreported
        claimed := fun _ => hboth
        unmerged := nofun }

end Orchestrator

/-! ### Scenes -/

namespace Scene

variable {o : Orchestrator} {unruled : Option Uuid → Bool} {scene : Scene} {workflow : Workflow}
  {task : Task}

/-- What is listed depends on the list of the static analysis only. -/
theorem Listed.of_list (h : scene.Listed) (workflow : Workflow) (hid : task.id = scene.task.id)
    (hids : task.sa.resultIds = scene.task.sa.resultIds)
    (hcount : task.sa.weaknessCount = scene.task.sa.weaknessCount) :
    ({ scene with workflow, task } : Scene).Listed := by
  have hown : ({ scene with workflow, task } : Scene).own = scene.own := by
    unfold own
    dsimp only
    rw [hid]
  constructor
  · rw [hown, hids]
    exact h.ids
  · rw [hids]
    exact h.distinct
  · rw [hown, hcount]
    exact h.count
  · rw [hown]
    exact h.findings

/-- An analysis that has not succeeded has no groups. -/
theorem Orderly.own_eq_nil (h : scene.Orderly) (hnot : scene.task.sa.status ≠ .success) :
    scene.own = [] := by
  have hids := h.listed.ids
  rw [h.consistent.unlisted hnot] at hids
  exact List.map_eq_nil_iff.mp hids

theorem Orderly.count_eq_zero (h : scene.Orderly) (hnot : scene.task.sa.status ≠ .success) :
    scene.task.sa.weaknessCount = 0 := by
  rw [← h.listed.count, h.own_eq_nil hnot]
  rfl

/-- Settling, up to the workflow. -/
theorem Orderly.merged (h : scene.Orderly) (workflow : Workflow) :
    ({ scene with workflow, task := o.merged scene.task scene.results } : Scene).Orderly := by
  refine ⟨Orchestrator.consistent_merged h.consistent, ?_⟩
  have hcourse := Orchestrator.merged_course o scene.task scene.results
  simp only [Task.course, Prod.mk.injEq] at hcourse
  obtain ⟨hid, _, _, _, hsa, _⟩ := hcourse
  exact h.listed.of_list workflow hid (by rw [hsa]) (by rw [hsa])

/-- After the merge has been tried, nothing that could be merged is left. -/
theorem Orderly.covers_merged (h : scene.Orderly) (workflow : Workflow)
    (hclaimed : scene.task.mergeClaimed = true → o.Covers scene) :
    o.Covers { scene with workflow, task := o.merged scene.task scene.results } := by
  rcases Orchestrator.merged_cases o scene.task scene.results with
    ⟨hsame, hfails⟩ | ⟨records, hrecords, _, _, hmerged⟩
  · rw [hsame]
    intro hboth
    cases hclaim : scene.task.mergeClaimed with
    | true => exact hclaim ▸ hclaimed hclaim hboth
    | false =>
      obtain ⟨e, herror⟩ := hfails hclaim hboth (h.consistent.kind_of_both hboth)
      have hresults : o.mergeRecords scene.task ({ scene with workflow } : Scene).results =
          .error e := herror
      rw [hresults]
  · intro _
    have hresults : ({ scene with
        workflow, task := o.merged scene.task scene.results } : Scene).results = scene.results := by
      rw [hmerged]
      rfl
    rw [hresults, hmerged]
    have hsame : o.mergeRecords
        { scene.task with
          summary := .ofResults records scene.task.updatedAt
          weaknessCount := records.length
          mergeClaimed := true } scene.results = .ok records := hrecords
    rw [hsame]
    exact ⟨rfl, rfl, Summary.timeless_ofResults records _⟩

theorem Orderly.givenUp (h : scene.Orderly) (workflow : Workflow) :
    ({ scene with workflow, task := scene.task.givenUp } : Scene).Orderly := by
  refine ⟨h.consistent.givenUp, ?_⟩
  have hsa : scene.task.givenUp.sa = scene.task.saGivenUp.sa := by
    unfold Task.givenUp Task.mlGivenUp
    split
    · rfl
    · rfl
  apply h.listed.of_list workflow (Task.givenUp_id scene.task)
  · rw [hsa]
    unfold Task.saGivenUp
    split
    · rfl
    · rename_i hopen
      refine (h.consistent.unlisted ?_).symm
      intro hsuccess
      rw [hsuccess] at hopen
      exact hopen rfl
  · rw [hsa]
    unfold Task.saGivenUp
    split
    · rfl
    · rename_i hopen
      refine (h.count_eq_zero ?_).symm
      intro hsuccess
      rw [hsuccess] at hopen
      exact hopen rfl

theorem covers_givenUp (hcovers : o.Covers scene) (workflow : Workflow) :
    o.Covers { scene with workflow, task := scene.task.givenUp } := by
  rcases scene.task.givenUp_cases with hsame | hnot
  · rw [hsame]
    exact hcovers
  · intro hboth
    rw [hnot] at hboth
    cases hboth

/-- Settling once a run has been ended by an answer. -/
theorem Orderly.answered (h : scene.Orderly) : (scene.answered o unruled).Orderly := by
  have hsettled : (scene.settled o).Orderly := h.merged _
  unfold Scene.answered
  split
  · unfold Scene.givenUp
    split
    · exact hsettled.givenUp _
    · exact ⟨hsettled.consistent, hsettled.listed.of_list _ rfl rfl rfl⟩
  · exact hsettled

theorem Orderly.covers_answered (h : scene.Orderly) (hunclaimed : scene.task.mergeClaimed = false) :
    o.Covers (scene.answered o unruled) := by
  have hsettled : o.Covers (scene.settled o) :=
    h.covers_merged _ fun hclaimed => by simp [hunclaimed] at hclaimed
  unfold Scene.answered
  split
  · unfold Scene.givenUp
    split
    · exact covers_givenUp hsettled _
    · exact hsettled
  · exact hsettled

/-! ### The answer of the static analysis -/

/-- The groups and findings of an answer are stored beside all others. -/
theorem saEnded_stored (answer : SaFinished) :
    (scene.saEnded answer).groups = scene.groups ++
        (storedReports scene.task.id scene.nextNumber answer.rules).map GroupReport.group ∧
      (scene.saEnded answer).findings =
        ((storedReports scene.task.id scene.nextNumber answer.rules).flatMap
          GroupReport.findings).foldl (fun table finding => table.insert finding.id finding)
            scene.findings := by
  unfold saEnded
  dsimp only
  rw [after_insertGroups, if_pos (ownReports_storedReports _ _ _)]
  exact ⟨rfl, rfl⟩

/-- They are the only groups of the task then. -/
theorem Orderly.own_saEnded (h : scene.Orderly) (answer : SaFinished)
    (hnot : scene.task.sa.status ≠ .success) :
    (scene.saEnded answer).own =
      (storedReports scene.task.id scene.nextNumber answer.rules).map GroupReport.group := by
  have hall : ((storedReports scene.task.id scene.nextNumber answer.rules).map
      GroupReport.group).filter (fun group => group.taskId = scene.task.id) =
        (storedReports scene.task.id scene.nextNumber answer.rules).map GroupReport.group := by
    rw [List.filter_eq_self]
    intro group member
    obtain ⟨report, hreport, rfl⟩ := List.mem_map.mp member
    simpa using (storedReports_own hreport).1
  have hnone : (scene.groups.filter fun group => group.taskId = scene.task.id) = [] :=
    h.own_eq_nil hnot
  unfold own
  rw [(saEnded_stored answer).1]
  change List.filter (fun group : FindingGroup => group.taskId = scene.task.id) _ = _
  rw [List.filter_append, hnone, hall, List.nil_append]

theorem listed_saEnded (h : scene.Orderly) {answer : SaFinished}
    (hnot : scene.task.sa.status ≠ .success)
    (hgrounded : ∀ report ∈ storedReports scene.task.id scene.nextNumber answer.rules,
      ∀ finding ∈ report.findings, finding.Grounded) : (scene.saEnded answer).Listed := by
  have hown := h.own_saEnded answer hnot
  have hdistinct := storedReports_ids_nodup scene.task.id scene.nextNumber answer.rules
  constructor
  · rw [hown, List.map_map]
    rfl
  · exact (groupIds_sublist _).nodup hdistinct
  · rw [hown, List.flatMap_map]
    exact storedReports_count _ _ _
  · rw [hown]
    intro group hgroup id hid
    obtain ⟨report, hreport, rfl⟩ := List.mem_map.mp hgroup
    rw [(storedReports_own hreport).2] at hid
    obtain ⟨finding, hfinding, rfl⟩ := List.mem_map.mp hid
    refine ⟨finding, ?_, hgrounded report hreport finding hfinding⟩
    rw [(saEnded_stored answer).2]
    exact SortedMap.get?_foldl_insert_of_mem Finding.id (fun finding => finding) _ _
      ((findingIds_sublist _).nodup hdistinct)
      (List.mem_flatMap.mpr ⟨report, hreport, hfinding⟩)

theorem Orderly.saEnded (h : scene.Orderly) {answer : SaFinished}
    (hmay : scene.task.sa.status.canBecome (.ofSuccess answer.success) = true)
    (hgrounded : ∀ report ∈ storedReports scene.task.id scene.nextNumber answer.rules,
      ∀ finding ∈ report.findings, finding.Grounded) : (scene.saEnded answer).Orderly := by
  refine ⟨h.consistent.saEnded hmay ?_, listed_saEnded h ?_ hgrounded⟩
  · intro hfailed
    simp [SaFinished.rules, hfailed, storedReports]
  · intro hsuccess
    rw [hsuccess] at hmay
    cases hmay

/-- The findings of an accepted answer are stored as they should be. -/
theorem grounded_of_accepted {answer : SaFinished} {queue : Queue} {body : Json}
    (haccepted : Completion.parse queue body = .ok (.sa answer)) (taskId : Uuid) (first : Nat) :
    ∀ report ∈ storedReports taskId first answer.rules, ∀ finding ∈ report.findings,
      finding.Grounded := by
  intro report hreport stored hstored
  obtain ⟨rule, hrule, finding, hfinding, id, rfl⟩ := mem_storedReports hreport hstored
  unfold SaFinished.rules at hrule
  split at hrule
  · rename_i hsuccess
    cases hresult : answer.result with
    | none =>
      rw [hresult] at hrule
      cases hrule
    | some result =>
      rw [hresult] at hrule
      have hbounded := SaFinished.bounded_of_accepted haccepted result hresult rule hrule
      have hpath := SaFinished.pathful_of_accepted haccepted hsuccess result hresult rule hrule
      exact ⟨⟨rfl, hbounded finding hfinding⟩, hpath finding hfinding⟩
  · cases hrule

/-- An accepted answer of the static analysis keeps the records in order, whether it is
expected or not. One that is expected covers what can be merged then. -/
theorem Orderly.saAnswered (o : Orchestrator) (unruled : Option Uuid → Bool) (h : scene.Orderly)
    {answer : SaFinished} {queue : Queue} {body : Json}
    (haccepted : Completion.parse queue body = .ok (.sa answer)) :
    (scene.saAnswered o unruled answer).Orderly ∧
      (scene.saAnswered o unruled answer = scene ∨ scene.task.mergeClaimed = false ∧
        o.Covers (scene.saAnswered o unruled answer)) := by
  unfold Scene.saAnswered
  split
  · rename_i hawaits
    have hmay := (Bool.and_eq_true_iff.mp hawaits).2
    have hunclaimed := h.consistent.unclaimed_of_awaitsSa hmay
    have hended := h.saEnded hmay (grounded_of_accepted haccepted _ _)
    exact ⟨hended.answered, Or.inr ⟨hunclaimed, hended.covers_answered hunclaimed⟩⟩
  · exact ⟨h, Or.inl rfl⟩

/-! ### The answer of the machine-learning engine -/

theorem Orderly.mlAnswered (o : Orchestrator) (unruled : Option Uuid → Bool) (h : scene.Orderly)
    {answer : MlFinished} {queue : Queue} {body : Json}
    (haccepted : Completion.parse queue body = .ok (.ml answer)) :
    (scene.mlAnswered o unruled answer).Orderly ∧
      (scene.mlAnswered o unruled answer = scene ∨ scene.task.mergeClaimed = false ∧
        o.Covers (scene.mlAnswered o unruled answer)) := by
  unfold Scene.mlAnswered
  split
  · rename_i hawaits
    have hmay := (Bool.and_eq_true_iff.mp hawaits).2
    have hunclaimed := h.consistent.unclaimed_of_awaitsMl hmay
    have hended : (scene.mlEnded answer).Orderly := by
      refine ⟨h.consistent.mlEnded hmay ?_ ?_, h.listed.of_list _ rfl rfl rfl⟩
      · intro hsuccess
        rw [if_pos hsuccess]
        exact MlFinished.probable_of_accepted haccepted hsuccess
      · intro hfailed
        simp [hfailed]
    exact ⟨hended.answered, Or.inr ⟨hunclaimed, hended.covers_answered hunclaimed⟩⟩
  · exact ⟨h, Or.inl rfl⟩

end Scene

end ScanFlow
