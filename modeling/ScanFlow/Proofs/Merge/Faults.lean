import ScanFlow.Proofs.Merge.Correlation
import ScanFlow.Proofs.Merge.Facades

/-!
When correlation fails, and on what.

Thresholds are looked at first, then the facades of all findings in the order of the groups,
then the scores of the analysed files in the order of paths and rule keys. Correlation stops at
the first fault, and succeeds where there is none. Files that were not analysed have no part in
it at all.
-/

namespace ScanFlow

/-! ### Facades -/

/-- The text is that of a place: a file name, a colon, and a line number of 32 bits in decimal
digits, which may have a plus sign. The colon is the last one, since no digit is one. -/
def Facade.IsPlace (facade : String) : Prop :=
  ∃ file sign digits : List Char, facade.toList = file ++ ':' :: (sign ++ digits) ∧
    file ≠ [] ∧ (sign = [] ∨ sign = ['+']) ∧ digits ≠ [] ∧
    (∀ c ∈ digits, '0' ≤ c ∧ c ≤ '9') ∧ Digits.value digits < 2 ^ 32

theorem Text.cutLast?_eq_some {mark : Char} {cs before after : List Char}
    (h : cutLast? mark cs = some (before, after)) : cs = before ++ mark :: after := by
  induction cs generalizing before with
  | nil => simp [cutLast?] at h
  | cons c rest ih =>
    unfold cutLast? at h
    cases hrest : cutLast? mark rest with
    | none =>
      simp only [hrest, Option.ite_none_right_eq_some, Option.some.injEq, Prod.mk.injEq] at h
      obtain ⟨rfl, rfl, rfl⟩ := h
      rfl
    | some cut =>
      simp only [hrest, Option.some.injEq, Prod.mk.injEq] at h
      obtain ⟨rfl, rfl⟩ := h
      rw [ih hrest, List.cons_append]

/-- Exactly the texts of places split. -/
theorem Facade.exists_split?_iff (facade : String) :
    (∃ place, split? facade = some place) ↔ IsPlace facade := by
  constructor
  · rintro ⟨place, h⟩
    unfold split? at h
    split at h
    · rename_i file line hcut
      split at h
      · rename_i n hnumber
        split at h
        · cases h
        · rename_i hfile
          obtain ⟨sign, digits, hline, hsign, hdigits⟩ := Digits.parse?_eq_some_iff.mp hnumber
          obtain ⟨hne, hall, hlimit, -⟩ := Digits.ofChars?_eq_some_iff.mp hdigits
          rw [String.toList_ofList] at hline
          refine ⟨file, sign, digits, hline ▸ Text.cutLast?_eq_some hcut, ?_, hsign, hne, ?_, ?_⟩
          · simpa using hfile
          · simpa [Digits.isDigit_iff] using hall
          · unfold Digits.maxWord32 at hlimit
            omega
      · cases h
    · cases h
  · rintro ⟨file, sign, digits, htext, hfile, hsign, hne, hall, hlimit⟩
    have hmark : ':' ∉ sign ++ digits := by
      simp only [List.mem_append, not_or]
      constructor
      · rcases hsign with rfl | rfl <;> simp
      · intro member
        have hcolon := hall ':' member
        revert hcolon
        decide
    have hdigits : Digits.ofChars? Digits.maxWord32 digits = some (Digits.value digits) := by
      refine Digits.ofChars?_eq_some_iff.mpr ⟨hne, ?_, ?_, rfl⟩
      · simpa [Digits.isDigit_iff] using hall
      · unfold Digits.maxWord32
        omega
    have hnumber : Digits.parse? Digits.maxWord32 (String.ofList (sign ++ digits)) =
        some (Digits.value digits) :=
      Digits.parse?_eq_some_iff.mpr ⟨sign, digits, String.toList_ofList, hsign, hdigits⟩
    refine ⟨(String.ofList file, Digits.value digits), ?_⟩
    unfold split?
    rw [htext, Text.cutLast?_append _ hmark]
    dsimp only
    rw [hnumber]
    simp [hfile]

theorem Facade.split?_isNone_iff (facade : String) :
    (split? facade).isNone = true ↔ ¬ IsPlace facade := by
  rw [← exists_split?_iff]
  cases split? facade <;> simp

/-! ### Scores -/

theorem FileVerdict.isSuccess_eq (verdict : FileVerdict) :
    verdict.isSuccess = decide (verdict.status = 200) := rfl

namespace MlReport

def Scored (report : MlReport) (path ruleKey : String) (p : Binary64) : Prop :=
  ∃ verdict, (path, verdict) ∈ report.entries ∧ verdict.status = 200 ∧
    (ruleKey, p) ∈ verdict.probabilities.entries

def analysed (report : MlReport) : MlReport :=
  ⟨report.entries.filter fun entry => entry.2.status = 200, report.sorted.filter _⟩

theorem scores_analysed (report : MlReport) : report.analysed.scores = report.scores := by
  simp [scores, analysed, FileVerdict.isSuccess_eq]

theorem mem_scores {report : MlReport} {score : Score} :
    score ∈ report.scores ↔ report.Scored score.path score.ruleKey score.probability := by
  cases score
  simp [scores, Scored, FileVerdict.isSuccess_eq, and_assoc]

def Score.Before (path ruleKey path' ruleKey' : String) : Prop :=
  path < path' ∨ path = path' ∧ ruleKey < ruleKey'

theorem Score.Before.asymm {path ruleKey path' ruleKey' : String}
    (h : Before path ruleKey path' ruleKey') : ¬ Before path' ruleKey' path ruleKey := by
  rintro (hback | ⟨hpath, hback⟩)
  · rcases h with hforth | ⟨hpath, -⟩
    · exact String.lt_irrefl _ (String.lt_trans hforth hback)
    · exact String.lt_irrefl _ (hpath ▸ hback)
  · rcases h with hforth | ⟨-, hforth⟩
    · exact String.lt_irrefl _ (hpath ▸ hforth)
    · exact String.lt_irrefl _ (String.lt_trans hforth hback)

/-- The scores stand in the order of paths and rule keys. -/
theorem scores_sorted (report : MlReport) :
    report.scores.Pairwise fun a b => Score.Before a.path a.ruleKey b.path b.ruleKey := by
  unfold scores
  refine List.pairwise_flatMap.mpr ⟨?_, ?_⟩
  · rintro ⟨path, verdict⟩ -
    refine List.pairwise_map.mpr (verdict.probabilities.sorted.imp ?_)
    intro a b hkeys
    exact .inr ⟨rfl, hkeys⟩
  · refine (report.sorted.filter _).imp ?_
    rintro ⟨path, verdict⟩ ⟨path', verdict'⟩ hpaths score hscore score' hscore'
    obtain ⟨_, _, rfl⟩ := List.mem_map.mp hscore
    obtain ⟨_, _, rfl⟩ := List.mem_map.mp hscore'
    exact .inl hpaths

end MlReport

namespace Merge

/-! ### The faults of findings and scores -/

/-- In a sorted list an item is the first faulty one if those before it in the order are not. -/
theorem find?_first {α : Type} {faulty : α → Bool} {before : α → α → Prop}
    (hasymm : ∀ a b, before a b → ¬ before b a) {items : List α}
    (hsorted : items.Pairwise before) (item : α) :
    items.find? faulty = some item ↔
      item ∈ items ∧ faulty item = true ∧
        ∀ other ∈ items, before other item → faulty other = false := by
  rw [List.find?_eq_some_iff_append]
  constructor
  · rintro ⟨hfaulty, earlier, later, rfl, hearlier⟩
    refine ⟨by simp, hfaulty, ?_⟩
    intro other member hbefore
    have hlater := (List.pairwise_cons.mp (List.pairwise_append.mp hsorted).2.1).1
    rcases List.mem_append.mp member with member | member
    · simpa using hearlier other member
    · rcases List.mem_cons.mp member with rfl | member
      · exact absurd hbefore (hasymm _ _ hbefore)
      · exact absurd (hlater other member) (hasymm _ _ hbefore)
  · rintro ⟨member, hfaulty, hfirst⟩
    obtain ⟨earlier, later, rfl⟩ := List.append_of_mem member
    refine ⟨hfaulty, earlier, later, rfl, ?_⟩
    intro other hother
    have hbefore := (List.pairwise_append.mp hsorted).2.2 other hother item (by simp)
    simpa using hfirst other (by simp [hother]) hbefore

/-- The first finding, in the order of the groups, whose facade is no place. -/
def FirstMisplaced (groups : List GroupReport) (finding : Finding) : Prop :=
  ∃ before after, groups.flatMap GroupReport.findings = before ++ finding :: after ∧
    (∀ other ∈ before, Facade.IsPlace other.facade) ∧ ¬ Facade.IsPlace finding.facade

/-- The first score of an analysed file that is no probability. -/
def FirstImprobable (report : MlReport) (path ruleKey : String) (p : Binary64) : Prop :=
  report.Scored path ruleKey p ∧ ¬ p.InUnit ∧
    ∀ path' ruleKey' p', report.Scored path' ruleKey' p' →
      MlReport.Score.Before path' ruleKey' path ruleKey → p'.InUnit

theorem firstMisplaced_iff (groups : List GroupReport) (finding : Finding) :
    FirstMisplaced groups finding ↔
      (groups.flatMap GroupReport.findings).find?
        (fun finding => (Facade.split? finding.facade).isNone) = some finding := by
  have hplace (finding : Finding) : (!(Facade.split? finding.facade).isNone) = true ↔
      Facade.IsPlace finding.facade := by
    rw [← Facade.exists_split?_iff]
    cases Facade.split? finding.facade <;> simp
  unfold FirstMisplaced
  rw [List.find?_eq_some_iff_append]
  simp only [Facade.split?_isNone_iff, hplace]
  constructor
  · rintro ⟨before, after, hfindings, hbefore, hfinding⟩
    exact ⟨hfinding, before, after, hfindings, hbefore⟩
  · rintro ⟨hfinding, before, after, hfindings, hbefore⟩
    exact ⟨before, after, hfindings, hbefore, hfinding⟩

theorem findingRecords_ok_iff (groups : List GroupReport) :
    (∃ found, findingRecords groups = .ok found) ↔
      ∀ group ∈ groups, ∀ finding ∈ group.findings, Facade.IsPlace finding.facade := by
  rw [exists_ok_iff (findingRecords_error_iff groups)]
  simp only [List.mem_flatMap, ← Bool.not_eq_true, Facade.split?_isNone_iff, Classical.not_not]
  constructor
  · intro h group hgroup finding hfinding
    exact h finding ⟨group, hgroup, hfinding⟩
  · rintro h finding ⟨group, hgroup, hfinding⟩
    exact h group hgroup finding hfinding

theorem firstImprobable_iff (report : MlReport) (score : MlReport.Score) :
    FirstImprobable report score.path score.ruleKey score.probability ↔
      report.scores.find? (fun score => !score.probability.isProbability) = some score := by
  rw [find?_first (fun _ _ => MlReport.Score.Before.asymm) report.scores_sorted]
  simp only [FirstImprobable, MlReport.mem_scores, Bool.not_eq_true', ← Bool.not_eq_true,
    Binary64.isProbability_iff, Classical.not_not]
  constructor
  · rintro ⟨hscored, hp, hfirst⟩
    exact ⟨hscored, hp, fun other hother => hfirst _ _ _ hother⟩
  · rintro ⟨hscored, hp, hfirst⟩
    exact ⟨hscored, hp, fun path ruleKey p hother => hfirst ⟨path, ruleKey, p⟩ hother⟩

theorem scores_ok_iff (rules : Option TemplateSnapshot) (report : MlReport)
    (found : List MergeRecord) :
    (∃ records, report.scores.foldlM (addScore rules) found = .ok records) ↔
      ∀ path ruleKey p, report.Scored path ruleKey p → p.InUnit := by
  rw [exists_ok_iff (scores_error_iff rules report found)]
  simp only [MlReport.mem_scores, Bool.not_eq_false', Binary64.isProbability_iff]
  constructor
  · intro h path ruleKey p hscored
    exact h ⟨path, ruleKey, p⟩ hscored
  · intro h score hscored
    exact h _ _ _ hscored

/-! ### The first fault of all -/

/-- The fault that a correlation stops at: thresholds out of order, or else a facade that is no
place, or else a score that is no probability, in each case the first one. -/
def FirstFault (groups : List GroupReport) (report : MlReport) (t : Thresholds) :
    CorrelationError → Prop
  | .invalidThresholds low high => ¬ t.Ordered ∧ low = t.low ∧ high = t.high
  | .malformedFacade facade =>
    t.Ordered ∧ ∃ finding, FirstMisplaced groups finding ∧ facade = finding.facade
  | .invalidProbability path ruleKey p =>
    t.Ordered ∧ (∀ group ∈ groups, ∀ finding ∈ group.findings, Facade.IsPlace finding.facade) ∧
      FirstImprobable report path ruleKey p

/-- Correlation succeeds exactly on input without faults. -/
theorem correlate_succeeds_iff (groups : List GroupReport) (report : MlReport)
    (rules : Option TemplateSnapshot) (t : Thresholds) :
    (∃ records, correlate groups report rules t = .ok records) ↔
      t.Ordered ∧ (∀ group ∈ groups, ∀ finding ∈ group.findings, Facade.IsPlace finding.facade) ∧
        ∀ path ruleKey p, report.Scored path ruleKey p → p.InUnit := by
  have hsucceeds := (correlate_passes groups report rules t).2
  simp only [hsucceeds, t.isValid_iff, ← findingRecords_ok_iff]
  constructor
  · rintro ⟨_, hvalid, found, hfound, joined, hjoined, -⟩
    exact ⟨hvalid, ⟨found, hfound⟩, (scores_ok_iff rules report found).mp ⟨joined, hjoined⟩⟩
  · rintro ⟨hvalid, ⟨found, hfound⟩, hscores⟩
    obtain ⟨joined, hjoined⟩ := (scores_ok_iff rules report found).mpr hscores
    exact ⟨_, hvalid, found, hfound, joined, hjoined, rfl⟩

/-- Correlation fails exactly on faulty input, with the first fault; and it is the same with and
without the verdicts on files that were not analysed. -/
theorem correlate_stops_at_first_fault (groups : List GroupReport) (report : MlReport)
    (rules : Option TemplateSnapshot) (t : Thresholds) :
    (∀ e, correlate groups report rules t = .error e ↔ FirstFault groups report t e) ∧
      ((∃ records, correlate groups report rules t = .ok records) ↔
        t.Ordered ∧ (∀ group ∈ groups, ∀ finding ∈ group.findings, Facade.IsPlace finding.facade) ∧
          ∀ path ruleKey p, report.Scored path ruleKey p → p.InUnit) ∧
      correlate groups report rules t = correlate groups report.analysed rules t := by
  have hfails := (correlate_passes groups report rules t).1
  refine ⟨fun e => ?_, ?_, ?_⟩
  · rw [hfails, t.validate_error_iff, t.isValid_iff, findingRecords_error_iff]
    simp only [scores_error_iff, ← firstMisplaced_iff, ← firstImprobable_iff]
    cases e with
    | invalidThresholds low high => simp [FirstFault]
    | malformedFacade facade => simp [FirstFault]
    | invalidProbability path ruleKey p =>
      rw [FirstFault, ← findingRecords_ok_iff]
      constructor
      · rintro (⟨-, hfault⟩ | ⟨hvalid, ⟨_, -, hfault⟩ | ⟨found, hfound, score, hscore, hfault⟩⟩)
        · cases hfault
        · cases hfault
        · cases hfault
          exact ⟨hvalid, ⟨found, hfound⟩, hscore⟩
      · rintro ⟨hvalid, ⟨found, hfound⟩, hscore⟩
        exact .inr ⟨hvalid, .inr ⟨found, hfound, ⟨path, ruleKey, p⟩, hscore, rfl⟩⟩
  · exact correlate_succeeds_iff groups report rules t
  · unfold correlate
    rw [report.scores_analysed]

/-! ### Input without faults -/

/-- Facades split in one way, so the groups determine their sightings. -/
theorem Sightings.unique {groups : List GroupReport} {sightings others : List Sighting}
    (h : Sightings groups sightings) (hothers : Sightings groups others) : sightings = others := by
  obtain ⟨hpairs, hplaces⟩ := h
  obtain ⟨hpairs', hplaces'⟩ := hothers
  have hsame := hpairs.trans hpairs'.symm
  clear hpairs hpairs'
  induction sightings generalizing others with
  | nil =>
    cases others with
    | nil => rfl
    | cons other rest => simp at hsame
  | cons s rest ih =>
    cases others with
    | nil => simp at hsame
    | cons other rest' =>
      simp only [List.map_cons, List.cons.injEq, Prod.mk.injEq] at hsame
      obtain ⟨⟨hgroup, hfinding⟩, hrest⟩ := hsame
      have hplace : some (s.file, s.line) = some (other.file, other.line) := by
        rw [← hplaces s (by simp), ← hplaces' other (by simp), hfinding]
      simp only [Option.some.injEq, Prod.mk.injEq] at hplace
      have hhead : s = other := by
        cases s
        cases other
        simp_all
      have htail := ih (fun x member => hplaces x (by simp [member]))
        (fun x member => hplaces' x (by simp [member])) hrest
      rw [hhead, htail]

theorem readings_inUnit_iff (report : MlReport) :
    (∀ r ∈ readings report, r.probability.InUnit) ↔
      ∀ path ruleKey p, report.Scored path ruleKey p → p.InUnit := by
  rw [readings_eq_map_scores]
  simp only [List.mem_map, MlReport.mem_scores]
  constructor
  · intro h path ruleKey p hscored
    exact h _ ⟨⟨path, ruleKey, p⟩, hscored, rfl⟩
  · rintro h _ ⟨score, hscored, rfl⟩
    exact h _ _ _ hscored

/-- Input without faults has sightings, and gives what they and the readings amount to. -/
theorem correlate_eq_ok_iff {groups : List GroupReport} {report : MlReport}
    {rules : Option TemplateSnapshot} {t : Thresholds} {records : List MergeRecord} :
    correlate groups report rules t = .ok records ↔
      t.Ordered ∧ (∀ r ∈ readings report, r.probability.InUnit) ∧
        ∃ sightings, Sightings groups sightings ∧
          records = specified sightings (readings report) rules t := by
  constructor
  · exact correlate_ranks
  · rintro ⟨hordered, hunit, sightings, hsightings, rfl⟩
    have hplaces : ∀ group ∈ groups, ∀ finding ∈ group.findings,
        Facade.IsPlace finding.facade := by
      intro group hgroup finding hfinding
      have member : (group.group, finding) ∈ sightings.map fun s => (s.group, s.finding) := by
        rw [hsightings.1]
        exact List.mem_flatMap.mpr ⟨group, hgroup, List.mem_map.mpr ⟨finding, hfinding, rfl⟩⟩
      obtain ⟨s, hs, hpair⟩ := List.mem_map.mp member
      have hsplit := hsightings.2 s hs
      rw [(Prod.mk.inj hpair).2] at hsplit
      exact (Facade.exists_split?_iff _).mp ⟨_, hsplit⟩
    obtain ⟨records, hrecords⟩ := (correlate_succeeds_iff groups report rules t).mpr
      ⟨hordered, hplaces, (readings_inUnit_iff report).mp hunit⟩
    obtain ⟨-, -, others, hothers, rfl⟩ := correlate_ranks hrecords
    rw [hrecords, hsightings.unique hothers]

end Merge

end ScanFlow
