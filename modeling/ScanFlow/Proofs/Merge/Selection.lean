import Mathlib.Data.List.Forall2
import ScanFlow.Proofs.Merge.Faults

/-!
Which records a merge keeps.

No record of a finding is ever suppressed: it is an error, or a warning where its path stays out
of its file until the end and its score lies below the lower threshold. A score without a finding
is kept as a warning from the upper threshold on, and suppressed below.
-/

namespace ScanFlow.Merge

variable {rules : Option TemplateSnapshot} {t : Thresholds} {all : List Reading}

/-- The record reports the sighting, and ranks it by the thresholds. -/
structure Reports (t : Thresholds) (record : MergeRecord) (s : Sighting) : Prop where
  fromSa : record.fromSa = true
  file : record.file = s.file
  lineNumber : record.lineNumber = some s.line
  cwe : record.cwe = s.group.ruleCwe
  name : record.name = s.group.ruleName
  crossFile : record.crossFile = s.crossesFile
  kept : record.level = .error ∨ record.level = .warning
  warning : record.level = .warning ↔ record.crossFile = false ∧
    ∃ p, record.mlProbability = some p ∧ p.value < t.low.value

/-! ### The records that stay -/

/-- The record of a sighting is never suppressed. -/
theorem Sighting.reports (earlier : List Sighting) (s : Sighting) :
    Reports t (s.ranked all earlier t) s := by
  have hcross : (s.ranked all earlier t).crossFile = s.crossesFile := rfl
  have hp : (s.ranked all earlier t).mlProbability = s.probability? all earlier := rfl
  refine ⟨rfl, rfl, rfl, rfl, rfl, rfl, ?_, ?_⟩
  · unfold ranked
    repeat' split
    all_goals simp
  · rw [hcross, hp]
    unfold ranked
    repeat' split
    all_goals simp_all

theorem specified_eq (ht : t.Ordered) (hall : ∀ r ∈ all, r.probability.InUnit)
    (sightings : List Sighting) :
    specified sightings all rules t =
      (recordsAfter all [] sightings).map (·.ranked t) ++
        (unmatched sightings all).map (Reading.ranked rules t) := by
  rw [recordsAfter_ranked ht hall]
  rfl

theorem recordsAfter_reports (ht : t.Ordered) (hall : ∀ r ∈ all, r.probability.InUnit)
    (earlier sightings : List Sighting) :
    List.Forall₂ (Reports t) ((recordsAfter all earlier sightings).map (·.ranked t)) sightings := by
  induction sightings generalizing earlier with
  | nil => exact .nil
  | cons s rest ih =>
    rw [recordsAfter, List.map_cons, s.ranked_record ht hall]
    exact .cons (s.reports earlier) (ih _)

/-- Every record that reports a sighting is one of a finding, and is not suppressed. -/
theorem fromSa_of_reports {records : List MergeRecord} {sightings : List Sighting}
    (h : List.Forall₂ (Reports t) records sightings) :
    ∀ record ∈ records, record.fromSa = true ∧ record.level ≠ .suppressed := by
  induction h with
  | nil => simp
  | cons hreports _ ih =>
    refine List.forall_mem_cons.mpr ⟨⟨hreports.fromSa, ?_⟩, ih⟩
    rcases hreports.kept with hlevel | hlevel <;> simp [hlevel]

def confident (t : Thresholds) (sightings : List Sighting) (all : List Reading) : List Reading :=
  (unmatched sightings all).filter fun r => decide (t.high.value ≤ r.probability.value)

/-- All sightings stay, and the confident ones of the unmatched readings. -/
theorem kept_specified (ht : t.Ordered) (hall : ∀ r ∈ all, r.probability.InUnit)
    (sightings : List Sighting) :
    (specified sightings all rules t).filter (fun record => record.level != .suppressed) =
      (recordsAfter all [] sightings).map (·.ranked t) ++
        (confident t sightings all).map (Reading.ranked rules t) := by
  rw [specified_eq ht hall, List.filter_append, List.filter_map (l := unmatched sightings all)]
  congr 1
  · refine List.filter_eq_self.mpr fun record member => ?_
    simpa using (fromSa_of_reports (recordsAfter_reports ht hall [] sightings) record member).2
  · refine congrArg _ (List.filter_congr fun r _ => ?_)
    rw [Function.comp_apply]
    unfold Reading.ranked
    split <;> simp_all

/-- A list of two parts, of which a test accepts the first one and refuses the second. -/
theorem filter_parts {p : MergeRecord → Bool} {accepted refused : List MergeRecord}
    (haccepted : ∀ record ∈ accepted, p record = true)
    (hrefused : ∀ record ∈ refused, p record = false) (q : MergeRecord → Bool) :
    (accepted ++ refused).filter p = accepted ∧
      (accepted ++ refused).filter (fun record => !p record && q record) = refused.filter q := by
  have hnone : refused.filter p = [] := List.filter_eq_nil_iff.mpr (by simpa using hrefused)
  have hall : accepted.filter (fun record => !p record && q record) = [] :=
    List.filter_eq_nil_iff.mpr fun record member => by simp [haccepted record member]
  have hrest : refused.filter (fun record => !p record && q record) = refused.filter q :=
    List.filter_congr fun record member => by simp [hrefused record member]
  rw [List.filter_append, List.filter_append, hnone, hall, hrest,
    List.filter_eq_self.mpr haccepted]
  simp

/-- Merging keeps every finding, in order, and of the other records those whose probability
reaches the upper threshold. -/
theorem merge_keeps_findings (groups : List GroupReport) (report : MlReport)
    (rules : Option TemplateSnapshot) (t : Thresholds) (out : List MergeRecord)
    (h : merge groups report rules t = .ok out) :
    ∃ sightings correlated, Sightings groups sightings ∧
      correlate groups report rules t = .ok correlated ∧
      List.Forall₂ (Reports t) (out.filter (·.fromSa)) sightings ∧
      out.filter (!·.fromSa) = correlated.filter (fun record => !record.fromSa &&
        record.mlProbability.any fun p => decide (t.high.value ≤ p.value)) ∧
      (∀ record ∈ out, record.fromSa = false → record.level = .warning) ∧
      out.length = (groups.flatMap GroupReport.findings).length +
        (confident t sightings (readings report)).length := by
  obtain ⟨correlated, hcorrelated, rfl⟩ := merge_eq_ok_iff.mp h
  obtain ⟨hordered, hunit, sightings, hsightings, hspecified⟩ :=
    correlate_eq_ok_iff.mp hcorrelated
  have hreports := recordsAfter_reports hordered hunit [] sightings
  have hfound : ∀ record ∈ (recordsAfter (readings report) [] sightings).map (·.ranked t),
      record.fromSa = true := fun record member => (fromSa_of_reports hreports record member).1
  have halone (rs : List Reading) : ∀ record ∈ rs.map (Reading.ranked rules t),
      record.fromSa = false := by
    simp [Reading.ranked, Reading.record]
  refine ⟨sightings, correlated, hsightings, hcorrelated, ?_⟩
  rw [hspecified, kept_specified hordered hunit, specified_eq hordered hunit]
  refine ⟨?_, ?_, ?_, ?_⟩
  · rw [(filter_parts hfound (halone _) fun _ => true).1]
    exact hreports
  · have hkept := (filter_parts hfound (halone (confident t sightings (readings report)))
      fun _ => true).2
    simp only [Bool.and_true, List.filter_true] at hkept
    rw [hkept, (filter_parts hfound (halone _) _).2, List.filter_map]
    rfl
  · intro record member hrecord
    rcases List.mem_append.mp member with member | member
    · simp [hfound record member] at hrecord
    · obtain ⟨r, hr, rfl⟩ := List.mem_map.mp member
      exact if_pos (by simpa using (List.mem_filter.mp hr).2)
  · have hlength : sightings.length = (groups.flatMap GroupReport.findings).length := by
      have hpairs := congrArg List.length hsightings.1
      simpa [List.length_flatMap] using hpairs
    rw [List.length_append, hreports.length_eq, hlength, List.length_map]

def acrossFiles : List GroupReport :=
  [⟨⟨⟨1⟩, ⟨2⟩, "rule-78", "Command Injection", "CWE-78", "injection", .high, []⟩,
    [.fresh ⟨3⟩ ⟨2⟩ "getParameter" "exec"
      [{ file := "a/A.java", line := 3 }, { file := "a/B.java", line := 7 }]]⟩]

/-- Scores of three weaknesses in the second file, the first one that of the finding. -/
def threeScores : MlReport :=
  SortedMap.ofList
    [("/x/WEB-INF/classes/a/B.java",
      ⟨200, SortedMap.ofList [("078", .zero), ("CWE-89", .one), ("CWE-90", .zero)]⟩)]

/-- The finding stays as a warning, and of the other two scores the one that is high enough. -/
theorem merge_threeScores :
    ∃ out sightings, merge acrossFiles threeScores none .standard = .ok out ∧
      out.map (fun record => (record.fromSa, record.cwe, record.level)) =
        [(true, "CWE-78", .warning), (false, "CWE-89", .warning)] ∧
      Sightings acrossFiles sightings ∧
      List.Forall₂ (Reports .standard) (out.filter (·.fromSa)) sightings ∧
      out.length = (acrossFiles.flatMap GroupReport.findings).length +
        (confident .standard sightings (readings threeScores)).length := by
  have hrun : (merge acrossFiles threeScores none .standard).toOption.map
      (fun out => out.map fun record => (record.fromSa, record.cwe, record.level)) =
        some [(true, "CWE-78", .warning), (false, "CWE-89", .warning)] := by
    decide +kernel
  cases h : merge acrossFiles threeScores none .standard with
  | error e => simp [h, Except.toOption] at hrun
  | ok out =>
    obtain ⟨sightings, _, hsightings, -, hreports, -, -, hlength⟩ :=
      merge_keeps_findings acrossFiles threeScores none .standard out h
    simp only [h, Except.toOption, Option.map_some, Option.some.injEq] at hrun
    exact ⟨out, sightings, rfl, hrun, hsightings, hreports, hlength⟩

end ScanFlow.Merge
