import ScanFlow.Proofs.Merge.Selection

/-!
Higher scores never lower a level.

Two reports about the same files and rules, the scores of the second at least as high as those of
the first, give records that agree in everything but their probabilities and levels. No level is
lower with the second report, so whatever a merge keeps with the first it keeps with the second.
-/

namespace ScanFlow

def Severity.rank : Severity → Nat
  | suppressed => 0
  | warning => 1
  | error => 2

/-- The same status, and the same rule keys; scores of an analysed file have not gone down. -/
structure FileVerdict.RaisedTo (verdict raised : FileVerdict) : Prop where
  status : verdict.status = raised.status
  scores : List.Forall₂
    (fun low high => low.1 = high.1 ∧ (verdict.status = 200 → low.2.value ≤ high.2.value))
    verdict.probabilities.entries raised.probabilities.entries

def MlReport.RaisedTo (report raised : MlReport) : Prop :=
  List.Forall₂ (fun low high => low.1 = high.1 ∧ low.2.RaisedTo high.2)
    report.entries raised.entries

structure MergeRecord.RaisedTo (record raised : MergeRecord) : Prop where
  same : { raised with mlProbability := record.mlProbability, level := record.level } = record
  level : record.level.rank ≤ raised.level.rank

namespace Merge

variable {rules : Option TemplateSnapshot} {t : Thresholds} {all higher : List Reading}

/-! ### Readings -/

structure Reading.RaisedTo (r raised : Reading) : Prop where
  file : r.file = raised.file
  ruleKey : r.ruleKey = raised.ruleKey
  probability : r.probability.value ≤ raised.probability.value

theorem readings_raised {report raised : MlReport} (h : report.RaisedTo raised) :
    List.Forall₂ Reading.RaisedTo (readings report) (readings raised) := by
  unfold readings
  unfold MlReport.RaisedTo at h
  generalize report.entries = verdicts at h ⊢
  generalize raised.entries = others at h ⊢
  induction h with
  | nil => exact .nil
  | @cons low high _ _ hhead _ ih =>
    obtain ⟨hpath, hstatus, hscores⟩ := hhead
    by_cases hanalysed : low.2.status = 200
    · rw [List.filter_cons_of_pos (by simpa using hanalysed),
        List.filter_cons_of_pos (by simpa using hstatus ▸ hanalysed),
        List.flatMap_cons, List.flatMap_cons]
      refine List.rel_append ?_ ih
      rw [List.forall₂_map_left_iff, List.forall₂_map_right_iff]
      refine hscores.imp fun score score' hscore => ?_
      exact ⟨by rw [hpath], hscore.1, hscore.2 hanalysed⟩
    · rw [List.filter_cons_of_neg (by simpa using hanalysed),
        List.filter_cons_of_neg (by simpa using hstatus ▸ hanalysed)]
      exact ih

theorem concerns_raised {r raised : Reading} (h : r.RaisedTo raised) :
    r.concerns = raised.concerns := by
  funext s
  simp [Reading.concerns, h.file, h.ruleKey]

theorem unmatched_raised (sightings : List Sighting)
    (h : List.Forall₂ Reading.RaisedTo all higher) :
    List.Forall₂ Reading.RaisedTo (unmatched sightings all) (unmatched sightings higher) :=
  List.rel_filter (fun _ _ hr => by simp [concerns_raised hr]) h

theorem head?_raised (h : List.Forall₂ Reading.RaisedTo all higher) :
    Option.Rel Reading.RaisedTo all.head? higher.head? := by
  cases h with
  | nil => exact .none
  | cons hfirst _ => exact .some hfirst

theorem getLast?_raised (h : List.Forall₂ Reading.RaisedTo all higher) :
    Option.Rel Reading.RaisedTo all.getLast? higher.getLast? := by
  rw [← List.head?_reverse, ← List.head?_reverse]
  exact head?_raised (List.rel_reverse h)

/-- The second probability is not lower, or there is none in both cases. -/
abbrev ProbabilityRaised : Option Binary64 → Option Binary64 → Prop :=
  Option.Rel fun p raised => p.value ≤ raised.value

theorem probability_raised {r raised : Option Reading} (h : Option.Rel Reading.RaisedTo r raised) :
    ProbabilityRaised (r.map Reading.probability) (raised.map Reading.probability) := by
  cases h with
  | none => exact .none
  | some hreading => exact .some hreading.probability

/-- A sighting has a probability with both reports or with none. -/
theorem probability?_raised (earlier : List Sighting) (s : Sighting)
    (h : List.Forall₂ Reading.RaisedTo all higher) :
    ProbabilityRaised (s.probability? all earlier) (s.probability? higher earlier) := by
  unfold Sighting.probability?
  split
  · exact .none
  · exact probability_raised (getLast?_raised
      (List.rel_filter (fun _ _ hr => by simp [concerns_raised hr]) h))

theorem isSome_raised {p raised : Option Binary64} (h : ProbabilityRaised p raised) :
    p.isSome = raised.isSome := by
  cases h <;> rfl

/-! ### Records -/

theorem sighting_raised (h : List.Forall₂ Reading.RaisedTo all higher) (earlier : List Sighting)
    (s : Sighting) : (s.ranked all earlier t).RaisedTo (s.ranked higher earlier t) := by
  have hp := probability?_raised earlier s h
  constructor
  · simp [Sighting.ranked, Sighting.record, isSome_raised hp]
  · unfold Sighting.ranked
    generalize s.probability? all earlier = p at hp ⊢
    generalize s.probability? higher earlier = raised at hp ⊢
    cases s.crossesFile with
    | true => exact le_refl _
    | false =>
      cases hp with
      | none => exact le_refl _
      | @some p raised hle =>
        by_cases hreached : t.low.value ≤ p.value
        · simp [hreached, hreached.trans hle]
        · simp only [hreached, if_false]
          split <;> simp [Severity.rank]

theorem reading_raised {r raised : Reading} (h : r.RaisedTo raised) :
    (r.ranked rules t).RaisedTo (raised.ranked rules t) := by
  constructor
  · simp [Reading.ranked, Reading.record, Reading.name, h.file, h.ruleKey]
  · unfold Reading.ranked
    by_cases hreached : t.high.value ≤ r.probability.value
    · simp [hreached, hreached.trans h.probability]
    · simp [hreached, Severity.rank]

theorem alone_raised (h : List.Forall₂ Reading.RaisedTo all higher) :
    List.Forall₂ MergeRecord.RaisedTo (all.map (Reading.ranked rules t))
      (higher.map (Reading.ranked rules t)) := by
  rw [List.forall₂_map_left_iff, List.forall₂_map_right_iff]
  exact h.imp fun _ _ => reading_raised

theorem recordsAfter_raised (ht : t.Ordered) (hall : ∀ r ∈ all, r.probability.InUnit)
    (hhigher : ∀ r ∈ higher, r.probability.InUnit)
    (h : List.Forall₂ Reading.RaisedTo all higher) (earlier sightings : List Sighting) :
    List.Forall₂ MergeRecord.RaisedTo ((recordsAfter all earlier sightings).map (·.ranked t))
      ((recordsAfter higher earlier sightings).map (·.ranked t)) := by
  induction sightings generalizing earlier with
  | nil => exact .nil
  | cons s rest ih =>
    simp only [recordsAfter, List.map_cons, s.ranked_record ht hall, s.ranked_record ht hhigher]
    exact .cons (sighting_raised h earlier s) (ih _)

theorem specified_raised (ht : t.Ordered) (hall : ∀ r ∈ all, r.probability.InUnit)
    (hhigher : ∀ r ∈ higher, r.probability.InUnit)
    (h : List.Forall₂ Reading.RaisedTo all higher) (sightings : List Sighting) :
    List.Forall₂ MergeRecord.RaisedTo (specified sightings all rules t)
      (specified sightings higher rules t) := by
  rw [specified_eq ht hall, specified_eq ht hhigher]
  exact List.rel_append (recordsAfter_raised ht hall hhigher h [] sightings)
    (alone_raised (unmatched_raised sightings h))

/-- What is kept of the lower records is kept of the higher ones, in the same order. -/
theorem filter_raised {records raised : List MergeRecord}
    (h : List.Forall₂ MergeRecord.RaisedTo records raised) :
    List.SublistForall₂ MergeRecord.RaisedTo
      (records.filter fun record => record.level != .suppressed)
      (raised.filter fun record => record.level != .suppressed) := by
  induction h with
  | nil => exact .nil
  | @cons record raised _ _ hhead _ ih =>
    by_cases hkept : record.level = .suppressed
    · rw [List.filter_cons_of_neg (by simp [hkept]), List.filter_cons]
      split
      · exact .cons_right ih
      · exact ih
    · have hraised : raised.level ≠ .suppressed := by
        intro hlevel
        have hrank := hhead.level
        rw [hlevel] at hrank
        cases hrecord : record.level <;> simp_all [Severity.rank]
      rw [List.filter_cons_of_pos (by simpa using hkept),
        List.filter_cons_of_pos (by simpa using hraised)]
      exact .cons hhead ih

/-- Records are raised with the scores, and merging keeps at least the same ones. -/
theorem raised_scores_raise_records (groups : List GroupReport) (rules : Option TemplateSnapshot)
    (t : Thresholds) (report raised : MlReport) (records higher : List MergeRecord)
    (hraised : report.RaisedTo raised) (h : correlate groups report rules t = .ok records)
    (hhigher : correlate groups raised rules t = .ok higher) :
    records.length = higher.length ∧ List.Forall₂ MergeRecord.RaisedTo records higher ∧
      ∃ out more, merge groups report rules t = .ok out ∧ merge groups raised rules t = .ok more ∧
        List.SublistForall₂ MergeRecord.RaisedTo out more := by
  obtain ⟨ht, hall, sightings, hsightings, rfl⟩ := correlate_eq_ok_iff.mp h
  obtain ⟨-, hmore, others, hothers, rfl⟩ := correlate_eq_ok_iff.mp hhigher
  cases hsightings.unique hothers
  have hrecords : List.Forall₂ MergeRecord.RaisedTo (specified sightings (readings report) rules t)
      (specified sightings (readings raised) rules t) :=
    specified_raised ht hall hmore (readings_raised hraised) sightings
  exact ⟨hrecords.length_eq, hrecords, _, _, merge_eq_ok_iff.mpr ⟨_, h, rfl⟩,
    merge_eq_ok_iff.mpr ⟨_, hhigher, rfl⟩, filter_raised hrecords⟩

def higherScores : MlReport :=
  SortedMap.ofList
    [("/x/WEB-INF/classes/a/B.java",
      ⟨200, SortedMap.ofList [("078", .one), ("CWE-89", .one), ("CWE-90", .one)]⟩)]

/-- The finding becomes an error, and the third weakness a warning that is kept. -/
theorem higherScores_raise_records :
    ∃ out more, threeScores.RaisedTo higherScores ∧
      merge acrossFiles threeScores none .standard = .ok out ∧
      merge acrossFiles higherScores none .standard = .ok more ∧
      List.SublistForall₂ MergeRecord.RaisedTo out more ∧
      out.map (fun record => (record.cwe, record.level)) =
        [("CWE-78", .warning), ("CWE-89", .warning)] ∧
      more.map (fun record => (record.cwe, record.level)) =
        [("CWE-78", .error), ("CWE-89", .warning), ("CWE-90", .warning)] := by
  have hraised : threeScores.RaisedTo higherScores := by
    refine .cons ⟨rfl, rfl, ?_⟩ .nil
    refine .cons ⟨rfl, fun _ => ?_⟩ (.cons ⟨rfl, fun _ => ?_⟩ (.cons ⟨rfl, fun _ => ?_⟩ .nil))
    · simp
    · exact le_refl _
    · simp
  have hlow : (merge acrossFiles threeScores none .standard).toOption.map
      (fun out => out.map fun record => (record.cwe, record.level)) =
        some [("CWE-78", .warning), ("CWE-89", .warning)] := by
    decide +kernel
  have hhigh : (merge acrossFiles higherScores none .standard).toOption.map
      (fun out => out.map fun record => (record.cwe, record.level)) =
        some [("CWE-78", .error), ("CWE-89", .warning), ("CWE-90", .warning)] := by
    decide +kernel
  cases h : correlate acrossFiles threeScores none .standard with
  | error e => simp [merge, h, bind, Except.bind, Except.toOption] at hlow
  | ok records =>
    cases h' : correlate acrossFiles higherScores none .standard with
    | error e => simp [merge, h', bind, Except.bind, Except.toOption] at hhigh
    | ok higher =>
      obtain ⟨-, -, out, more, hout, hmore, hsub⟩ :=
        raised_scores_raise_records acrossFiles none .standard threeScores higherScores
          records higher hraised h h'
      simp only [hout, Except.toOption, Option.map_some, Option.some.injEq] at hlow
      simp only [hmore, Except.toOption, Option.map_some, Option.some.injEq] at hhigh
      exact ⟨out, more, hraised, hout, hmore, hsub, hlow, hhigh⟩

end Merge

end ScanFlow
