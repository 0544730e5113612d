import ScanFlow.Proofs.Merge.Facades
import ScanFlow.Proofs.Merge.Passes
import ScanFlow.Proofs.Message.Accepted

/-!
Inputs that can be merged.

Merging fails on invalid thresholds, on a facade that does not split, and on a score that is
no probability. Stored findings of accepted messages that end in some file, and the scores of
accepted messages, have none of these faults.
-/

namespace ScanFlow.Merge

/-- With probabilities and valid thresholds, merging fails as the findings do. -/
theorem merge_error_iff_findings (groups : List GroupReport) {report : MlReport}
    (rules : Option TemplateSnapshot) {t : Thresholds} (hvalid : t.isValid = true)
    (hprobable : report.Probable) (e : CorrelationError) :
    merge groups report rules t = .error e ↔ findingRecords groups = .error e := by
  have hthresholds : t.validate = .ok () := if_pos hvalid
  have hscores : ∀ found, report.scores.foldlM (addScore rules) found ≠ .error e := by
    intro found hfails
    obtain ⟨score, hscore, -⟩ := (scores_error_iff rules report found e).mp hfails
    have hprobability := hprobable score (List.mem_of_find?_eq_some hscore)
    have himprobable := List.find?_some hscore
    simp [hprobability] at himprobable
  rw [merge_fails_iff, (correlate_passes groups report rules t).1, hthresholds]
  simp [hvalid, hscores]

/-- Under valid thresholds, regular findings cannot be merged with probabilities where one of them
ends in no file, and only there. -/
theorem merge_error_iff {groups : List GroupReport} {report : MlReport}
    (rules : Option TemplateSnapshot) {t : Thresholds} (hvalid : t.isValid = true)
    (hregular : ∀ group ∈ groups, ∀ finding ∈ group.findings, finding.Regular)
    (hprobable : report.Probable) :
    ((∃ e, merge groups report rules t = .error e) ↔
        ∃ group ∈ groups, ∃ finding ∈ group.findings, finding.sinkFile = "") ∧
      ∀ e, merge groups report rules t = .error e → ∃ facade, e = .malformedFacade facade := by
  -- A regular finding does not split exactly where it ends in no file.
  have hsplit : ∀ group ∈ groups, ∀ finding ∈ group.findings,
      (Facade.split? finding.facade).isNone = true ↔ finding.sinkFile = "" := by
    intro group hgroup finding hfinding
    have hfinding := hregular group hgroup finding hfinding
    constructor
    · intro hnone
      refine Decidable.byContradiction fun hsink => ?_
      obtain ⟨place, hplace⟩ := hfinding.split hsink
      simp [hplace] at hnone
    · intro hempty
      simp [hfinding.split_none hempty]
  simp only [merge_error_iff_findings groups rules hvalid hprobable, findingRecords_error_iff]
  refine ⟨⟨?_, ?_⟩, ?_⟩
  · rintro ⟨_, finding, hfirst, -⟩
    obtain ⟨group, hgroup, hfinding⟩ := List.mem_flatMap.mp (List.mem_of_find?_eq_some hfirst)
    have hnone := List.find?_some hfirst
    exact ⟨group, hgroup, finding, hfinding, (hsplit group hgroup finding hfinding).mp hnone⟩
  · rintro ⟨group, hgroup, finding, hfinding, hempty⟩
    have hnone := (hsplit group hgroup finding hfinding).mpr hempty
    have hfirst : ((groups.flatMap GroupReport.findings).find? fun finding =>
        (Facade.split? finding.facade).isNone).isSome = true :=
      List.find?_isSome.mpr ⟨finding, List.mem_flatMap.mpr ⟨group, hgroup, hfinding⟩, hnone⟩
    obtain ⟨first, hfirst⟩ := Option.isSome_iff_exists.mp hfirst
    exact ⟨_, first, hfirst, rfl⟩
  · rintro e ⟨finding, -, rfl⟩
    exact ⟨finding.facade, rfl⟩

/-- Regular findings that end in some file can be merged with probabilities, under valid
thresholds. -/
theorem merge_ok {groups : List GroupReport} {report : MlReport}
    (rules : Option TemplateSnapshot) {t : Thresholds} (hvalid : t.isValid = true)
    (hregular : ∀ group ∈ groups, ∀ finding ∈ group.findings, finding.Regular)
    (hsink : ∀ group ∈ groups, ∀ finding ∈ group.findings, finding.sinkFile ≠ "")
    (hprobable : report.Probable) : ∃ records, merge groups report rules t = .ok records := by
  cases hmerged : merge groups report rules t with
  | ok records => exact ⟨records, rfl⟩
  | error e =>
    obtain ⟨hiff, _⟩ := merge_error_iff rules hvalid hregular hprobable
    obtain ⟨group, hgroup, finding, hfinding, hempty⟩ := hiff.mp ⟨e, hmerged⟩
    exact absurd hempty (hsink group hgroup finding hfinding)

end ScanFlow.Merge
