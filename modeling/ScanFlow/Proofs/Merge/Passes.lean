import ScanFlow.Merge.Correlate
import ScanFlow.Proofs.Number.Value
import ScanFlow.Proofs.Outcome

/-!
The passes of a correlation, and what each of them stops at.

Thresholds that are out of order stop it at once. The pass over the findings stops at the first
facade that does not split, the pass over the scores at the first one that is no probability.
-/

namespace ScanFlow

/-! ### Thresholds -/

/-- Both thresholds are finite, from zero to one, and the lower one is not above the other. -/
def Thresholds.Ordered (t : Thresholds) : Prop :=
  t.low.isFinite = true ∧ t.high.isFinite = true ∧
    0 ≤ t.low.value ∧ t.low.value ≤ t.high.value ∧ t.high.value ≤ 1

theorem Thresholds.isValid_iff (t : Thresholds) : t.isValid = true ↔ t.Ordered := by
  unfold isValid Ordered
  by_cases hlow : t.low.isFinite = true
  · by_cases hhigh : t.high.isFinite = true
    · have hzero : Binary64.zero.le t.low = true ↔ 0 ≤ t.low.value := by
        simp [Binary64.le_iff Binary64.zero_isFinite hlow]
      have hone : t.high.le Binary64.one = true ↔ t.high.value ≤ 1 := by
        simp [Binary64.le_iff hhigh Binary64.one_isFinite]
      simp [hlow, hhigh, hzero, hone, Binary64.le_iff hlow hhigh, and_assoc]
    · simp [hhigh]
  · simp [hlow]

theorem Thresholds.validate_error_iff (t : Thresholds) (e : CorrelationError) :
    t.validate = .error e ↔ ¬ t.Ordered ∧ e = .invalidThresholds t.low t.high := by
  unfold validate
  rw [← t.isValid_iff]
  cases t.isValid with
  | true => simp
  | false =>
    simp only [Bool.false_eq_true, if_false, Except.error.injEq, not_false_eq_true, true_and]
    exact eq_comm

namespace Merge

/-! ### Findings and scores -/

/-- A finding fails by its facade. -/
theorem findingRecord_error_iff (group : FindingGroup) (finding : Finding) {e : CorrelationError} :
    findingRecord group finding = .error e ↔
      Facade.split? finding.facade = none ∧ e = .malformedFacade finding.facade := by
  unfold findingRecord
  cases Facade.split? finding.facade with
  | none =>
    simp only [Except.error.injEq, true_and]
    exact eq_comm
  | some place => exact ⟨nofun, nofun⟩

/-- The findings of all groups, without their groups. -/
theorem findings_eq_map (groups : List GroupReport) :
    groups.flatMap GroupReport.findings =
      (groups.flatMap fun report => report.findings.map fun finding => (report.group, finding)).map
        Prod.snd := by
  simp [List.map_flatMap, Function.comp_def]

theorem findingRecords_error_iff (groups : List GroupReport) (e : CorrelationError) :
    findingRecords groups = .error e ↔
      ∃ finding, (groups.flatMap GroupReport.findings).find?
          (fun finding => (Facade.split? finding.facade).isNone) = some finding ∧
        e = .malformedFacade finding.facade := by
  have hrecord (pair : FindingGroup × Finding) (fault : CorrelationError) :
      findingRecord pair.1 pair.2 = .error fault ↔
        (Facade.split? pair.2.facade).isNone = true ∧ fault = .malformedFacade pair.2.facade := by
    rw [findingRecord_error_iff, Option.isNone_iff_eq_none]
  unfold findingRecords
  rw [mapM_error_iff hrecord]
  simp only [findings_eq_map, List.find?_map, Option.map_eq_some_iff, Function.comp_def]
  constructor
  · rintro ⟨pair, hpair, rfl⟩
    exact ⟨pair.2, ⟨pair, hpair, rfl⟩, rfl⟩
  · rintro ⟨_, ⟨pair, hpair, rfl⟩, rfl⟩
    exact ⟨pair, hpair, rfl⟩

theorem scores_error_iff (rules : Option TemplateSnapshot) (report : MlReport)
    (found : List MergeRecord) (e : CorrelationError) :
    report.scores.foldlM (addScore rules) found = .error e ↔
      ∃ score, report.scores.find? (fun score => !score.probability.isProbability) = some score ∧
        e = .invalidProbability score.path score.ruleKey score.probability := by
  refine foldlM_error_iff ?_ report.scores found e
  intro records score fault
  unfold addScore
  cases score.probability.isProbability with
  | true =>
    simp only [if_true]
    split <;> simp
  | false =>
    simp only [Bool.false_eq_true, if_false, Except.error.injEq, Bool.not_false, true_and]
    exact eq_comm

/-! ### Passes -/

/-- A correlation goes through three passes, and ranks what the last one leaves. -/
theorem correlate_passes (groups : List GroupReport) (report : MlReport)
    (rules : Option TemplateSnapshot) (t : Thresholds) :
    (∀ e, correlate groups report rules t = .error e ↔
      t.validate = .error e ∨ t.isValid = true ∧ (findingRecords groups = .error e ∨
        ∃ found, findingRecords groups = .ok found ∧
          report.scores.foldlM (addScore rules) found = .error e)) ∧
      ∀ records, correlate groups report rules t = .ok records ↔
        t.isValid = true ∧ ∃ found, findingRecords groups = .ok found ∧
          ∃ joined, report.scores.foldlM (addScore rules) found = .ok joined ∧
            joined.map (·.ranked t) = records := by
  unfold correlate Thresholds.validate
  cases t.isValid with
  | false => simp [bind, Except.bind]
  | true =>
    cases findingRecords groups with
    | error fault => simp [bind, Except.bind]
    | ok found =>
      cases hscores : report.scores.foldlM (addScore rules) found with
      | error fault => simp [bind, Except.bind, hscores]
      | ok joined => simp [bind, Except.bind, pure, Except.pure, hscores]

/-- A merge fails as the correlation does. -/
theorem merge_fails_iff {groups : List GroupReport} {report : MlReport}
    {rules : Option TemplateSnapshot} {t : Thresholds} {e : CorrelationError} :
    merge groups report rules t = .error e ↔ correlate groups report rules t = .error e := by
  unfold merge
  cases correlate groups report rules t <;> simp [bind, Except.bind, pure, Except.pure]

theorem merge_eq_ok_iff {groups : List GroupReport} {report : MlReport}
    {rules : Option TemplateSnapshot} {t : Thresholds} {out : List MergeRecord} :
    merge groups report rules t = .ok out ↔
      ∃ records, correlate groups report rules t = .ok records ∧
        records.filter (fun record => record.level != .suppressed) = out := by
  unfold merge
  cases correlate groups report rules t <;> simp [bind, Except.bind, pure, Except.pure]

end Merge

end ScanFlow
