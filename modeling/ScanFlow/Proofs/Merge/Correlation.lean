import ScanFlow.Proofs.Merge.Passes

/-!
What a correlation amounts to, without its loop.

The findings of all groups, in stored order, are sightings of a weakness at a place. The
probabilities of the analysed files are readings. A correlation that succeeds gives one
record per sighting and then one per reading that no sighting shares its place with. Of
several sightings of one place only the first takes a probability, and of several readings
of one place it takes the last. A sighting is an error, unless its path stays out of its file
until the end and its probability lies below the lower threshold; a reading alone is a
warning from the upper threshold on.
-/

namespace ScanFlow.Merge

structure Sighting where
  group : FindingGroup
  finding : Finding
  file : String
  line : Nat

/-- The probability of one rule in one analysed file, under the naming of facades. -/
structure Reading where
  file : String
  ruleKey : String
  probability : Binary64

/-- These are the findings of the groups in stored order, each where its facade says. -/
def Sightings (groups : List GroupReport) (sightings : List Sighting) : Prop :=
  sightings.map (fun s => (s.group, s.finding)) =
      groups.flatMap (fun report => report.findings.map (Prod.mk report.group)) ∧
    ∀ s ∈ sightings, Facade.split? s.finding.facade = some (s.file, s.line)

/-- The probabilities of the analysed files, by path and then by rule key. -/
def readings (report : MlReport) : List Reading :=
  (report.entries.filter fun entry => entry.2.status = 200).flatMap fun entry =>
    entry.2.probabilities.entries.map fun score =>
      ⟨Facade.ofReportedPath entry.1, score.1, score.2⟩

def Reading.concerns (r : Reading) (s : Sighting) : Bool :=
  s.file = r.file && Cwe.normalize s.group.ruleCwe = Cwe.normalize r.ruleKey

/-- The name of the first rule for the weakness, or else the rule key. -/
def Reading.name (rules : Option TemplateSnapshot) (r : Reading) : String :=
  match (rules.elim [] TemplateSnapshot.rules).find? fun rule =>
      Cwe.normalize rule.cwe = Cwe.normalize r.ruleKey with
  | some rule => rule.name
  | none => r.ruleKey

def Reading.record (rules : Option TemplateSnapshot) (r : Reading) : MergeRecord :=
  { cwe := r.ruleKey
    name := r.name rules
    file := r.file
    lineNumber := none
    crossFile := false
    level := .suppressed
    mlProbability := some r.probability
    fromSa := false
    fromMl := true
    thresholdLow := .zero
    thresholdHigh := .zero }

/-- The same record with its level: a warning from the upper threshold on. -/
def Reading.ranked (rules : Option TemplateSnapshot) (t : Thresholds) (r : Reading) :
    MergeRecord :=
  { r.record rules with
    level := if t.high.value ≤ r.probability.value then .warning else .suppressed
    thresholdLow := t.low
    thresholdHigh := t.high }

namespace Sighting

def samePlace (s other : Sighting) : Bool :=
  s.file = other.file && Cwe.normalize s.group.ruleCwe = Cwe.normalize other.group.ruleCwe

/-- The file is also met on the path before its last step. -/
def crossesFile (s : Sighting) : Bool :=
  s.file ∈ s.finding.path.dropLast.map PathStep.file

/-- The last reading of the place, for the first sighting of it; none for a later one. -/
def probability? (all : List Reading) (earlier : List Sighting) (s : Sighting) :
    Option Binary64 :=
  if earlier.any s.samePlace then none
  else (all.filter fun r => r.concerns s).getLast?.map Reading.probability

def record (all : List Reading) (earlier : List Sighting) (s : Sighting) : MergeRecord :=
  { cwe := s.group.ruleCwe
    name := s.group.ruleName
    file := s.file
    lineNumber := some s.line
    crossFile := s.crossesFile
    level := .suppressed
    mlProbability := s.probability? all earlier
    fromSa := true
    fromMl := (s.probability? all earlier).isSome
    thresholdLow := .zero
    thresholdHigh := .zero }

/-- The same record with its level: an error, or a warning where the path does not cross the
file and the probability lies below the lower threshold. -/
def ranked (all : List Reading) (earlier : List Sighting) (t : Thresholds) (s : Sighting) :
    MergeRecord :=
  { s.record all earlier with
    level :=
      match s.crossesFile, s.probability? all earlier with
      | true, _ => .error
      | false, none => .error
      | false, some p => if t.low.value ≤ p.value then .error else .warning
    thresholdLow := t.low
    thresholdHigh := t.high }

end Sighting

def unmatched (sightings : List Sighting) (all : List Reading) : List Reading :=
  all.filter fun r => !sightings.any r.concerns

/-- What sightings and readings amount to: the sightings in order, then the unmatched
readings in order, each with its level and the thresholds. -/
def specified (sightings : List Sighting) (all : List Reading)
    (rules : Option TemplateSnapshot) (t : Thresholds) : List MergeRecord :=
  (sightings.mapIdx fun i s => s.ranked all (sightings.take i) t) ++
    (unmatched sightings all).map (Reading.ranked rules t)

variable {rules : Option TemplateSnapshot} {t : Thresholds} {all : List Reading}

/-! ### Levels -/

theorem Sighting.probability?_inUnit (hall : ∀ r ∈ all, r.probability.InUnit)
    {earlier : List Sighting} {s : Sighting} {p : Binary64}
    (h : s.probability? all earlier = some p) : p.InUnit := by
  unfold probability? at h
  split at h
  · cases h
  · obtain ⟨r, hlast, rfl⟩ := Option.map_eq_some_iff.mp h
    exact hall r (List.mem_filter.mp (List.mem_of_getLast? hlast)).1

/-- Between probabilities and thresholds in order, the rules of ranking come down to the two
comparisons. -/
theorem Sighting.ranked_record (ht : t.Ordered) (hall : ∀ r ∈ all, r.probability.InUnit)
    (earlier : List Sighting) (s : Sighting) :
    (s.record all earlier).ranked t = s.ranked all earlier t := by
  have hlevel : (s.record all earlier).classify t = (s.ranked all earlier t).level := by
    unfold ranked
    cases hcross : s.crossesFile with
    | true => simp [MergeRecord.classify, Sighting.record, hcross]
    | false =>
      cases hp : s.probability? all earlier with
      | none => simp [MergeRecord.classify, Sighting.record, hcross, hp]
      | some p =>
        have hle := Binary64.le_iff ht.1 (probability?_inUnit hall hp).1
        have hlt := Binary64.lt_iff (probability?_inUnit hall hp).1 ht.1
        by_cases hlow : t.low.value ≤ p.value
        · simp [MergeRecord.classify, Sighting.record, hcross, hp, hle.mpr hlow, hlow]
        · have hbelow : t.low.le p = false := Bool.eq_false_iff.mpr fun h => hlow (hle.mp h)
          simp [MergeRecord.classify, Sighting.record, hcross, hp, hbelow,
            hlt.mpr (not_le.mp hlow), hlow]
  unfold MergeRecord.ranked
  rw [hlevel]
  rfl

theorem Reading.ranked_record (ht : t.Ordered) {r : Reading} (hr : r.probability.InUnit) :
    (r.record rules).ranked t = r.ranked rules t := by
  have hle := Binary64.le_iff ht.2.1 hr.1
  have hlevel : (r.record rules).classify t = (r.ranked rules t).level := by
    unfold ranked
    by_cases hhigh : t.high.value ≤ r.probability.value
    · simp [MergeRecord.classify, Reading.record, hle.mpr hhigh, hhigh]
    · have hbelow : t.high.le r.probability = false :=
        Bool.eq_false_iff.mpr fun h => hhigh (hle.mp h)
      simp [MergeRecord.classify, Reading.record, hbelow, hhigh]
  unfold MergeRecord.ranked
  rw [hlevel]
  rfl

/-! ### The loop -/

def recordsAfter (all : List Reading) : List Sighting → List Sighting → List MergeRecord
  | _, [] => []
  | earlier, s :: rest => s.record all earlier :: recordsAfter all (earlier ++ [s]) rest

theorem recordsAfter_ranked (ht : t.Ordered) (hall : ∀ r ∈ all, r.probability.InUnit)
    (earlier sightings : List Sighting) :
    (recordsAfter all earlier sightings).map (·.ranked t) =
      sightings.mapIdx fun i s => s.ranked all (earlier ++ sightings.take i) t := by
  induction sightings generalizing earlier with
  | nil => rfl
  | cons s rest ih =>
    rw [recordsAfter, List.map_cons, ih, s.ranked_record ht hall, List.mapIdx_cons]
    simp

/-- What the loop has built when the readings `all` have been taken up. -/
def tableau (rules : Option TemplateSnapshot) (sightings : List Sighting)
    (all : List Reading) : List MergeRecord :=
  recordsAfter all [] sightings ++ (unmatched sightings all).map (Reading.record rules)

theorem matchesScore_sighting (r : Reading) (all : List Reading) (earlier : List Sighting)
    (s : Sighting) :
    matchesScore r.file r.ruleKey (s.record all earlier) = r.concerns s := rfl

theorem concerns_of_samePlace {r : Reading} {s other : Sighting}
    (hplace : s.samePlace other = true) : r.concerns s = r.concerns other := by
  simp only [Sighting.samePlace, Bool.and_eq_true, decide_eq_true_eq] at hplace
  simp [Reading.concerns, hplace]

/-- A reading changes the record of no sighting that it does not concern. -/
theorem record_snoc_of_not_concerns {all : List Reading} {r : Reading}
    {earlier : List Sighting} {s : Sighting} (hnot : r.concerns s = false) :
    s.record (all ++ [r]) earlier = s.record all earlier := by
  have hsame : s.probability? (all ++ [r]) earlier = s.probability? all earlier := by
    simp [Sighting.probability?, List.filter_append, hnot]
  simp [Sighting.record, hsame]

/-- Nor that of a later sighting of a place. -/
theorem record_of_samePlace {all : List Reading} {earlier : List Sighting} {s : Sighting}
    (hplace : earlier.any s.samePlace = true) (more : List Reading) :
    s.record more earlier = s.record all earlier := by
  simp [Sighting.record, Sighting.probability?, hplace]

theorem any_samePlace {r : Reading} {earlier : List Sighting} {s : Sighting}
    (hearlier : earlier.any r.concerns = true) (hconcerns : r.concerns s = true) :
    earlier.any s.samePlace = true := by
  obtain ⟨first, member, hfirst⟩ := List.any_eq_true.mp hearlier
  refine List.any_eq_true.mpr ⟨first, member, ?_⟩
  simp only [Reading.concerns, Bool.and_eq_true, decide_eq_true_eq] at hfirst hconcerns
  simp [Sighting.samePlace, hfirst, hconcerns]

/-- Once a reading has found a sighting, it leaves those that come later alone. -/
theorem recordsAfter_snoc_of_found {all : List Reading} {r : Reading}
    {earlier : List Sighting} (hfound : earlier.any r.concerns = true)
    (sightings : List Sighting) :
    recordsAfter (all ++ [r]) earlier sightings = recordsAfter all earlier sightings := by
  induction sightings generalizing earlier with
  | nil => rfl
  | cons s rest ih =>
    have hrest : (earlier ++ [s]).any r.concerns = true := by simp [hfound]
    have hrecord : s.record (all ++ [r]) earlier = s.record all earlier := by
      cases hconcerns : r.concerns s with
      | false => exact record_snoc_of_not_concerns hconcerns
      | true => exact record_of_samePlace (any_samePlace hfound hconcerns) _
    simp only [recordsAfter, hrecord, ih hrest]

/-- A reading that concerns no sighting changes none of their records. -/
theorem recordsAfter_snoc_of_unmatched {all : List Reading} {r : Reading}
    (earlier : List Sighting) {sightings : List Sighting}
    (hnone : sightings.any r.concerns = false) :
    recordsAfter (all ++ [r]) earlier sightings = recordsAfter all earlier sightings := by
  induction sightings generalizing earlier with
  | nil => rfl
  | cons s rest ih =>
    simp only [List.any_cons, Bool.or_eq_false_iff] at hnone
    simp only [recordsAfter, record_snoc_of_not_concerns hnone.1, ih _ hnone.2]

/-- The first sighting that a reading concerns takes its probability. -/
theorem record_snoc_of_first {all : List Reading} {r : Reading} {earlier : List Sighting}
    {s : Sighting} (hearlier : earlier.any r.concerns = false)
    (hconcerns : r.concerns s = true) :
    s.record (all ++ [r]) earlier =
      { s.record all earlier with fromMl := true, mlProbability := some r.probability } := by
  have hfirst : earlier.any s.samePlace = false := by
    refine List.any_eq_false.mpr fun other member hplace => ?_
    have hother := concerns_of_samePlace (r := r) hplace
    exact List.any_eq_false.mp hearlier other member (hother ▸ hconcerns)
  have hp : s.probability? (all ++ [r]) earlier = some r.probability := by
    simp [Sighting.probability?, hfirst, List.filter_append, hconcerns]
  simp [Sighting.record, hp]

/-- Records that only scores support never match a score. -/
theorem attach?_readings (r : Reading) (others : List Reading) :
    attach? r.file r.ruleKey r.probability (others.map (Reading.record rules)) = none := by
  induction others with
  | nil => rfl
  | cons head rest ih => simp [attach?, matchesScore, Reading.record, ih]

/-- Attaching a reading is taking it up, where a sighting waits for it. -/
theorem attach?_tableau (all : List Reading) (r : Reading) (earlier : List Sighting)
    (hearlier : earlier.any r.concerns = false) (sightings : List Sighting)
    (others : List Reading) :
    attach? r.file r.ruleKey r.probability
        (recordsAfter all earlier sightings ++ others.map (Reading.record rules)) =
      if sightings.any r.concerns then
        some (recordsAfter (all ++ [r]) earlier sightings ++ others.map (Reading.record rules))
      else none := by
  induction sightings generalizing earlier with
  | nil => simpa [recordsAfter] using attach?_readings r others
  | cons s rest ih =>
    simp only [recordsAfter, List.cons_append, attach?, matchesScore_sighting, List.any_cons]
    by_cases hconcerns : r.concerns s = true
    · have hfound : (earlier ++ [s]).any r.concerns = true := by simp [hconcerns]
      simp [hconcerns, record_snoc_of_first hearlier hconcerns,
        recordsAfter_snoc_of_found hfound]
    · have hnot : r.concerns s = false := by simpa using hconcerns
      have hnext : (earlier ++ [s]).any r.concerns = false := by simp [hearlier, hnot]
      rw [record_snoc_of_not_concerns hnot, ih _ hnext]
      simp only [hnot, Bool.false_eq_true, if_false, Bool.false_or]
      split <;> rfl

def readingOf (score : MlReport.Score) : Reading :=
  ⟨Facade.ofReportedPath score.path, score.ruleKey, score.probability⟩

theorem readings_eq_map_scores (report : MlReport) :
    readings report = report.scores.map readingOf := by
  simp only [readings, MlReport.scores, FileVerdict.isSuccess, FileVerdict.success,
    List.map_flatMap, List.map_map]
  rfl

theorem scoreName_eq (r : Reading) : scoreName rules r.ruleKey = r.name rules := by
  cases rules with
  | none => rfl
  | some snapshot =>
    show ((snapshot.rules.find? _).map RuleSnapshot.name).getD r.ruleKey = _
    unfold Reading.name
    show _ = match snapshot.rules.find? _ with | some rule => rule.name | none => r.ruleKey
    cases snapshot.rules.find? fun rule => Cwe.normalize rule.cwe = Cwe.normalize r.ruleKey with
    | none => rfl
    | some rule => rfl

/-- One turn of the loop takes up one reading. -/
theorem addScore_tableau {sightings : List Sighting} {all : List Reading}
    {score : MlReport.Score} {records : List MergeRecord}
    (hstep : addScore rules (tableau rules sightings all) score = .ok records) :
    records = tableau rules sightings (all ++ [readingOf score]) := by
  have hattach : attach? (Facade.ofReportedPath score.path) score.ruleKey score.probability
      (tableau rules sightings all) = _ :=
    attach?_tableau all (readingOf score) [] (by simp) sightings (unmatched sightings all)
  simp only [addScore] at hstep
  split at hstep
  · rw [hattach] at hstep
    cases hany : sightings.any (readingOf score).concerns with
    | true =>
      simp only [hany, if_true, Except.ok.injEq] at hstep
      simp [tableau, unmatched, List.filter_append, hany, ← hstep]
    | false =>
      simp only [hany, Bool.false_eq_true, if_false, Except.ok.injEq] at hstep
      have hrecord : MergeRecord.ofScore score.ruleKey (scoreName rules score.ruleKey)
          (Facade.ofReportedPath score.path) score.probability =
          (readingOf score).record rules := by
        rw [show scoreName rules score.ruleKey = _ from scoreName_eq (readingOf score)]
        rfl
      rw [← hstep, hrecord]
      simp [tableau, unmatched, List.filter_append, hany,
        recordsAfter_snoc_of_unmatched [] hany]
  · cases hstep

/-- Every prefix of the scores leaves the loop with the tableau of its readings. -/
theorem foldlM_addScore_tableau {sightings : List Sighting} {all : List Reading}
    {scores : List MlReport.Score} {records : List MergeRecord}
    (hloop : scores.foldlM (addScore rules) (tableau rules sightings all) = .ok records) :
    records = tableau rules sightings (all ++ scores.map readingOf) := by
  induction scores generalizing all with
  | nil =>
    cases hloop
    simp
  | cons score rest ih =>
    rw [List.foldlM_cons] at hloop
    obtain ⟨next, hstep, hloop⟩ := ok_of_bind hloop
    rw [addScore_tableau hstep] at hloop
    rw [ih hloop]
    simp

/-- The records that the loop starts from. -/
theorem findingRecord_eq {group : FindingGroup} {finding : Finding} {record : MergeRecord}
    (h : findingRecord group finding = .ok record) :
    ∃ s : Sighting, s.group = group ∧ s.finding = finding ∧
      Facade.split? finding.facade = some (s.file, s.line) ∧ record = s.record [] [] := by
  unfold findingRecord at h
  split at h
  · cases h
  · rename_i file line hsplit
    refine ⟨⟨group, finding, file, line⟩, rfl, rfl, hsplit, ?_⟩
    simp only [Except.ok.injEq] at h
    have hcross : (finding.path.dropLast.any fun step => decide (step.file = file)) =
        Sighting.crossesFile ⟨group, finding, file, line⟩ := by
      rw [Bool.eq_iff_iff, List.any_eq_true]
      simp only [Sighting.crossesFile, decide_eq_true_eq, List.mem_map]
    rw [← h, hcross]
    simp [Sighting.record, Sighting.probability?, MergeRecord.ofFinding]

theorem mapM_findingRecord {pairs : List (FindingGroup × Finding)}
    {records : List MergeRecord}
    (h : (pairs.mapM fun pair => findingRecord pair.1 pair.2) = .ok records) :
    ∃ sightings : List Sighting, sightings.map (fun s => (s.group, s.finding)) = pairs ∧
      (∀ s ∈ sightings, Facade.split? s.finding.facade = some (s.file, s.line)) ∧
      records = sightings.map (Sighting.record [] []) := by
  induction pairs generalizing records with
  | nil =>
    cases h
    exact ⟨[], rfl, by simp, rfl⟩
  | cons pair rest ih =>
    rw [List.mapM_cons] at h
    obtain ⟨head, hhead, h⟩ := ok_of_bind h
    obtain ⟨tail, hrest, h⟩ := ok_of_bind h
    cases h
    obtain ⟨s, hgroup, hfinding, hsplit, hrecord⟩ := findingRecord_eq hhead
    obtain ⟨sightings, hpairs, hplaces, hrecords⟩ := ih hrest
    refine ⟨s :: sightings, ?_, ?_, ?_⟩
    · simp [hpairs, hgroup, hfinding]
    · rintro other (_ | ⟨_, member⟩)
      · rw [hfinding]
        exact hsplit
      · exact hplaces other member
    · simp [hrecord, hrecords]

theorem recordsAfter_nil (earlier sightings : List Sighting) :
    recordsAfter [] earlier sightings = sightings.map (Sighting.record [] []) := by
  induction sightings generalizing earlier with
  | nil => rfl
  | cons s rest ih =>
    rw [recordsAfter, ih]
    simp [Sighting.record, Sighting.probability?]

/-- Ranking the tableau gives the records with their levels. -/
theorem tableau_ranked (ht : t.Ordered) (hall : ∀ r ∈ all, r.probability.InUnit)
    (sightings : List Sighting) :
    (tableau rules sightings all).map (·.ranked t) = specified sightings all rules t := by
  have halone : ((unmatched sightings all).map (Reading.record rules)).map (·.ranked t) =
      (unmatched sightings all).map (Reading.ranked rules t) := by
    rw [List.map_map]
    refine List.map_congr_left fun r member => ?_
    exact Reading.ranked_record ht (hall r (List.mem_filter.mp member).1)
  unfold tableau specified
  rw [List.map_append, halone, recordsAfter_ranked ht hall]
  rfl

/-- The loop takes up probabilities only. -/
theorem readings_inUnit {report : MlReport} {found joined : List MergeRecord}
    (h : report.scores.foldlM (addScore rules) found = .ok joined) :
    ∀ r ∈ readings report, r.probability.InUnit := by
  have hprobable := (exists_ok_iff (scores_error_iff rules report found)).mp ⟨joined, h⟩
  rw [readings_eq_map_scores, List.forall_mem_map]
  intro score member
  have hscore : score.probability.isProbability = true := by simpa using hprobable score member
  exact (Binary64.isProbability_iff _).mp hscore

/-- A correlation that succeeds has gone through its loop and ranked what it found. -/
theorem correlate_ranks {groups : List GroupReport} {report : MlReport}
    {records : List MergeRecord} (h : correlate groups report rules t = .ok records) :
    t.Ordered ∧ (∀ r ∈ readings report, r.probability.InUnit) ∧
      ∃ sightings, Sightings groups sightings ∧
        records = specified sightings (readings report) rules t := by
  obtain ⟨hvalid, found, hfound, joined, hjoined, rfl⟩ :=
    ((correlate_passes groups report rules t).2 records).mp h
  obtain ⟨sightings, hpairs, hplaces, hstart⟩ := mapM_findingRecord hfound
  have hbegin : found = tableau rules sightings [] := by
    simp [tableau, unmatched, recordsAfter_nil, hstart]
  have hordered := t.isValid_iff.mp hvalid
  have hunit := readings_inUnit hjoined
  refine ⟨hordered, hunit, sightings, ⟨hpairs, hplaces⟩, ?_⟩
  rw [hbegin] at hjoined
  rw [← tableau_ranked hordered hunit, foldlM_addScore_tableau hjoined, readings_eq_map_scores]
  rfl

/-- A correlation that succeeds gives what its sightings and readings amount to. The
sightings are determined by the groups, since every facade splits in one way. -/
theorem correlate_eq_specified (groups : List GroupReport) (report : MlReport)
    (rules : Option TemplateSnapshot) (t : Thresholds) (records : List MergeRecord)
    (h : correlate groups report rules t = .ok records) :
    ∃ sightings, Sightings groups sightings ∧
      records = specified sightings (readings report) rules t := by
  obtain ⟨-, -, sightings, hsightings, hrecords⟩ := correlate_ranks h
  exact ⟨sightings, hsightings, hrecords⟩

/-- Two findings of one weakness in one file, and a third of another weakness. -/
def twoRules : List GroupReport :=
  let group (cwe name : String) : FindingGroup :=
    ⟨⟨1⟩, ⟨2⟩, name, name, cwe, "injection", .high, []⟩
  let finding (path : List PathStep) : Finding := .fresh ⟨3⟩ ⟨2⟩ "getParameter" "exec" path
  [⟨group "CWE-78" "Command Injection",
      [finding [{ file := "a/B.java", line := 3 }, { file := "a/B.java", line := 7 }],
        finding [{ file := "a/B.java", line := 9 }]]⟩,
    ⟨group "89" "SQL Injection", [finding [{ file := "a/C.java", line := 4 }]]⟩]

/-- Two paths and two spellings that come down to one place, and a file that was not
analysed. -/
def twoPaths : MlReport :=
  SortedMap.ofList
    [("/x/WEB-INF/classes/a/B.java",
        ⟨200, SortedMap.ofList [("cwe_078", .zero), ("CWE-89", .one)]⟩),
      ("/y/WEB-INF/classes/a/B.java", ⟨200, SortedMap.ofList [("78", .one)]⟩),
      ("a/C.java", ⟨500, SortedMap.ofList [("89", .one)]⟩)]

/-- The first finding takes the last of its two scores, and the score of the other
weakness stands alone. -/
theorem correlate_twoPaths :
    ∃ records sightings,
      correlate twoRules twoPaths none ⟨.zero, .one⟩ = .ok records ∧
      Sightings twoRules sightings ∧
      records = specified sightings (readings twoPaths) none ⟨.zero, .one⟩ ∧
      records.map (fun record => (record.file, record.mlProbability)) =
        [("a/B.java", some .one), ("a/B.java", none), ("a/C.java", none),
          ("a/B.java", some .one)] := by
  have hrun : (correlate twoRules twoPaths none ⟨.zero, .one⟩).toOption.map
      (fun records => records.map fun record => (record.file, record.mlProbability)) =
        some [("a/B.java", some .one), ("a/B.java", none), ("a/C.java", none),
          ("a/B.java", some .one)] := by
    decide +kernel
  cases h : correlate twoRules twoPaths none ⟨.zero, .one⟩ with
  | error e => simp [h, Except.toOption] at hrun
  | ok records =>
    obtain ⟨sightings, hsightings, hrecords⟩ := correlate_eq_specified _ _ _ _ records h
    simp only [h, Except.toOption, Option.map_some, Option.some.injEq] at hrun
    exact ⟨records, sightings, rfl, hsightings, hrecords, hrun⟩

end ScanFlow.Merge
