import ScanFlow.Orchestrator.Summarize
import ScanFlow.Proofs.Lifecycle.Reports
import ScanFlow.Proofs.Merge.Facades
import ScanFlow.Proofs.Program.Scene

/-!
Reports that are kept while others come and go.

A delivery stores its groups before it knows whether they will count, and takes them away
again if they do not. Groups and findings are found by their identifiers, so that whatever is
stored under some identifiers stays as it is while calls touch other identifiers only. The
reports that the static analysis of a task has recorded are then the ones that are merged.
-/

namespace ScanFlow

namespace Scene

def SameAt (since met : Scene) (id : Uuid) : Prop :=
  (met.groups.filter fun group => group.id = id) =
      (since.groups.filter fun group => group.id = id) ∧
    met.findings.get? id = since.findings.get? id

/-- A report is stored as it is: its group is the only one of its identifier, and every
finding that it names is there. -/
structure Holds (scene : Scene) (report : GroupReport) : Prop where
  taskId : report.group.taskId = scene.task.id
  sole : (scene.groups.filter fun group => group.id = report.group.id) = [report.group]
  names : report.group.findingIds = report.findings.map Finding.id
  findings : ∀ finding ∈ report.findings, scene.findings.get? finding.id = some finding

/-- The stored reports to which the static analysis of the task refers. -/
def results (scene : Scene) : List GroupReport :=
  Orchestrator.pickReports (scene.reports scene.task.id) scene.task.sa.resultIds

/-- The static analysis has recorded these reports, and all of them are stored. -/
structure Recorded (scene : Scene) (ids : List Uuid) (reports : List GroupReport) : Prop where
  ids : reports.map (fun report => report.group.id) = ids
  distinct : (reports.map fun report => report.group.id).Nodup
  holds : ∀ report ∈ reports, scene.Holds report
  regular : ∀ report ∈ reports, ∀ finding ∈ report.findings, finding.Regular

variable {since met scene : Scene} {report : GroupReport} {ids : List Uuid}
  {reports : List GroupReport}

theorem SameAt.refl (scene : Scene) (id : Uuid) : scene.SameAt scene id := ⟨rfl, rfl⟩

theorem SameAt.trans {between : Scene} {id : Uuid} (hfirst : since.SameAt between id)
    (hsecond : between.SameAt met id) : since.SameAt met id :=
  ⟨hsecond.1.trans hfirst.1, hsecond.2.trans hfirst.2⟩

/-- A report is kept where nothing under its identifiers has changed. -/
theorem Holds.kept (h : since.Holds report) (htask : met.task.id = since.task.id)
    (hsame : ∀ id ∈ report.ids, since.SameAt met id) : met.Holds report where
  taskId := h.taskId.trans htask.symm
  sole := (hsame _ List.mem_cons_self).1.trans h.sole
  names := h.names
  findings := by
    intro finding member
    have hid : finding.id ∈ report.ids :=
      List.mem_cons_of_mem _ (List.mem_map.mpr ⟨finding, member, rfl⟩)
    exact (hsame _ hid).2.trans (h.findings finding member)

theorem Recorded.kept (h : since.Recorded ids reports) (htask : met.task.id = since.task.id)
    (hsame : ∀ id ∈ reports.flatMap GroupReport.ids, since.SameAt met id) :
    met.Recorded ids reports where
  ids := h.ids
  distinct := h.distinct
  regular := h.regular
  holds := by
    intro report member
    apply (h.holds report member).kept htask
    intro id hid
    exact hsame id (List.mem_flatMap.mpr ⟨report, member, hid⟩)

/-! ### What is merged -/

theorem filterMap_findings {findings : Table Finding} {kept : List Finding}
    (h : ∀ finding ∈ kept, findings.get? finding.id = some finding) :
    (kept.map Finding.id).filterMap findings.get? = kept := by
  induction kept with
  | nil => rfl
  | cons first rest ih =>
    have hfirst := h first List.mem_cons_self
    rw [List.map_cons, List.filterMap_cons, hfirst]
    exact congrArg (first :: ·) (ih fun finding member => h finding (List.mem_cons_of_mem _ member))

/-- A report that is kept is the only stored one of its identifier. -/
theorem Holds.sole_report (h : scene.Holds report) :
    ((scene.reports scene.task.id).filter fun other => other.group.id = report.group.id) =
      [report] := by
  have hgroups : ((scene.groups.filter fun group => group.taskId = scene.task.id).filter
      fun group => group.id = report.group.id) = [report.group] := by
    rw [List.filter_filter]
    have hswap : (fun group : FindingGroup => decide (group.id = report.group.id) &&
        decide (group.taskId = scene.task.id)) =
          fun group => decide (group.taskId = scene.task.id) &&
            decide (group.id = report.group.id) := by
      funext group
      exact Bool.and_comm _ _
    rw [hswap, ← List.filter_filter, h.sole]
    simp [h.taskId]
  have hreport : (⟨report.group, report.group.findingIds.filterMap scene.findings.get?⟩ :
      GroupReport) = report := by
    rw [h.names, filterMap_findings h.findings]
  unfold reports
  rw [List.filter_map]
  change List.map _
    (List.filter (fun group : FindingGroup => decide (group.id = report.group.id)) _) = _
  rw [hgroups, List.map_singleton, hreport]

theorem pickReports_eq {all wanted : List GroupReport}
    (hdistinct : (wanted.map fun report => report.group.id).Nodup)
    (hsole : ∀ report ∈ wanted,
      (all.filter fun other => other.group.id = report.group.id) = [report]) :
    Orchestrator.pickReports all (wanted.map fun report => report.group.id) = wanted := by
  induction wanted generalizing all with
  | nil => rfl
  | cons first rest ih =>
    rw [List.map_cons, List.nodup_cons] at hdistinct
    have hfirst := hsole first List.mem_cons_self
    have hfound : (all.reverse.find? fun other => other.group.id = first.group.id) =
        some first := by
      rw [← List.head?_filter, List.filter_reverse, hfirst]
      rfl
    have hrest : ∀ report ∈ rest, ((all.filter fun other => other.group.id ≠ first.group.id).filter
        fun other => other.group.id = report.group.id) = [report] := by
      intro report member
      have hne : report.group.id ≠ first.group.id := by
        intro heq
        exact hdistinct.1 (List.mem_map.mpr ⟨report, member, heq⟩)
      rw [List.filter_filter, ← hsole report (List.mem_cons_of_mem _ member)]
      apply List.filter_congr
      intro other _
      by_cases hother : other.group.id = report.group.id
      · simp [hother, hne]
      · simp [hother]
    rw [List.map_cons, Orchestrator.pickReports, hfound]
    exact congrArg (first :: ·) (ih hdistinct.2 hrest)

theorem results_of_holds
    (hids : scene.task.sa.resultIds = reports.map fun report => report.group.id)
    (hdistinct : (reports.map fun report => report.group.id).Nodup)
    (hholds : ∀ report ∈ reports, scene.Holds report) : scene.results = reports := by
  unfold results
  rw [hids]
  exact pickReports_eq hdistinct fun report member => (hholds report member).sole_report

/-- The recorded reports are the ones that are merged. -/
theorem Recorded.results_eq (h : scene.Recorded scene.task.sa.resultIds reports) :
    scene.results = reports :=
  results_of_holds h.ids.symm h.distinct h.holds

/-! ### Storing groups and taking them away -/

variable {now : Timestamp} {taskId : Uuid}

theorem after_insertGroups :
    scene.after now (.insertGroups taskId reports) =
      if Store.ownReports taskId reports = true then
        { scene with
          groups := scene.groups ++ reports.map GroupReport.group
          findings := (reports.flatMap GroupReport.findings).foldl
            (fun table finding => table.insert finding.id finding) scene.findings }
      else scene := by
  unfold after Store.Operation.onGroups Store.Operation.onFindings
  dsimp only
  split
  · rfl
  · rfl

/-- Storing reports touches only their own identifiers. -/
theorem sameAt_insertGroups {id : Uuid} (hid : id ∉ reports.flatMap GroupReport.ids) :
    scene.SameAt (scene.after now (.insertGroups taskId reports)) id := by
  have hgroup : ∀ report ∈ reports, report.group.id ≠ id := by
    rintro report member rfl
    exact hid (List.mem_flatMap.mpr ⟨report, member, List.mem_cons_self⟩)
  have hfinding : ∀ finding ∈ reports.flatMap GroupReport.findings, finding.id ≠ id := by
    rintro finding member rfl
    obtain ⟨report, hreport, hfinding⟩ := List.mem_flatMap.mp member
    have hown : finding.id ∈ report.ids :=
      List.mem_cons_of_mem _ (List.mem_map.mpr ⟨finding, hfinding, rfl⟩)
    exact hid (List.mem_flatMap.mpr ⟨report, hreport, hown⟩)
  rw [after_insertGroups]
  split
  · constructor
    · have hnone : ((reports.map GroupReport.group).filter fun group => group.id = id) = [] := by
        rw [List.filter_eq_nil_iff]
        intro group member
        obtain ⟨report, hreport, rfl⟩ := List.mem_map.mp member
        simpa using hgroup report hreport
      dsimp only
      rw [List.filter_append, hnone, List.append_nil]
    · exact SortedMap.get?_foldl_insert_of_not_mem Finding.id (fun finding => finding) _ _ hfinding
  · exact .refl scene id

/-- Taking groups away touches only their identifiers and those of the findings they name. -/
theorem sameAt_deleteGroups {groupIds own : List Uuid} (hgroups : ∀ id ∈ groupIds, id ∈ own)
    (hclosed : ∀ group ∈ scene.groups, group.id ∈ own → ∀ id ∈ group.findingIds, id ∈ own)
    {id : Uuid} (hid : id ∉ own) :
    scene.SameAt (scene.after now (.deleteGroups taskId groupIds)) id := by
  have hnamed : ∀ group, Store.isNamed taskId groupIds group = true → group.id ∈ own := by
    intro group hnamed
    simp only [Store.isNamed, Bool.and_eq_true, List.contains_iff_mem] at hnamed
    exact hgroups _ hnamed.2
  constructor
  · change ((scene.groups.filter fun group => !Store.isNamed taskId groupIds group).filter _) = _
    rw [List.filter_filter]
    apply List.filter_congr
    intro group _
    by_cases hgroup : group.id = id
    · have hkept : Store.isNamed taskId groupIds group = false := by
        rw [Bool.eq_false_iff]
        intro htrue
        exact hid (hgroup ▸ hnamed group htrue)
      simp [hgroup, hkept]
    · simp [hgroup]
  · change (scene.findings.eraseAll _).get? id = _
    rw [SortedMap.get?_eraseAll, if_neg]
    intro member
    obtain ⟨group, hgroup, hfinding⟩ := List.mem_flatMap.mp member
    obtain ⟨hstored, htrue⟩ := List.mem_filter.mp hgroup
    exact hid (hclosed group hstored (hnamed group htrue) id hfinding)

theorem groupIds_sublist (reports : List GroupReport) :
    (reports.map fun report => report.group.id).Sublist (reports.flatMap GroupReport.ids) := by
  induction reports with
  | nil => exact .slnil
  | cons first rest ih =>
    rw [List.map_cons, List.flatMap_cons]
    exact List.Sublist.append (List.singleton_sublist.mpr List.mem_cons_self) ih

theorem findingIds_sublist (reports : List GroupReport) :
    ((reports.flatMap GroupReport.findings).map Finding.id).Sublist
      (reports.flatMap GroupReport.ids) := by
  induction reports with
  | nil => exact .slnil
  | cons first rest ih =>
    rw [List.flatMap_cons, List.flatMap_cons, List.map_append]
    exact List.Sublist.append (List.sublist_cons_self _ _) ih

theorem filter_of_nodup {α : Type} {identity : α → Uuid} {items : List α} {item : α}
    (hdistinct : (items.map identity).Nodup) (member : item ∈ items) :
    (items.filter fun other => identity other = identity item) = [item] := by
  induction items with
  | nil => cases member
  | cons first rest ih =>
    rw [List.map_cons, List.nodup_cons] at hdistinct
    rcases List.mem_cons.mp member with rfl | member
    · have hnone : (rest.filter fun other => identity other = identity item) = [] := by
        rw [List.filter_eq_nil_iff]
        intro other hother
        have hne : identity other ≠ identity item := fun heq =>
          hdistinct.1 (List.mem_map.mpr ⟨other, hother, heq⟩)
        simpa using hne
      simp [hnone]
    · have hne : identity first ≠ identity item := fun heq =>
        hdistinct.1 (List.mem_map.mpr ⟨item, member, heq.symm⟩)
      simp [hne, ih hdistinct.2 member]

/-- Reports with identifiers of their own are kept once they have been stored. -/
theorem holds_insertGroups (htask : taskId = scene.task.id)
    (hown : ∀ report ∈ reports, report.group.taskId = taskId ∧
      report.group.findingIds = report.findings.map Finding.id)
    (hdistinct : (reports.flatMap GroupReport.ids).Nodup)
    (hnew : ∀ report ∈ reports,
      (scene.groups.filter fun group => group.id = report.group.id) = []) :
    ∀ report ∈ reports, (scene.after now (.insertGroups taskId reports)).Holds report := by
  have hreports : Store.ownReports taskId reports = true := by
    apply List.all_eq_true.mpr
    intro report member
    simpa using (hown report member).1
  have hgroups : ((reports.map GroupReport.group).map FindingGroup.id).Nodup := by
    rw [List.map_map]
    exact (groupIds_sublist reports).nodup hdistinct
  have hfindings := (findingIds_sublist reports).nodup hdistinct
  intro report member
  rw [after_insertGroups, if_pos hreports]
  constructor
  · exact (hown report member).1.trans htask
  · have hsole := filter_of_nodup hgroups (List.mem_map.mpr ⟨report, member, rfl⟩)
    dsimp only
    rw [List.filter_append, hnew report member, hsole, List.nil_append]
  · exact (hown report member).2
  · intro finding hfinding
    exact SortedMap.get?_foldl_insert_of_mem Finding.id (fun finding => finding) _ _ hfindings
      (List.mem_flatMap.mpr ⟨report, member, hfinding⟩)

/-! ### Reports under identifiers of their own -/

structure Bears (scene : Scene) (ids : List Uuid) (reports : List GroupReport) : Prop where
  groups : (scene.groups.filter fun group => group.id ∈ ids) = reports.map GroupReport.group
  findings : ∀ id ∈ ids, scene.findings.get? id =
    (reports.flatMap GroupReport.findings).find? fun finding => finding.id = id

structure SameUnder (since met : Scene) (ids : List Uuid) : Prop where
  groups : (met.groups.filter fun group => group.id ∈ ids) =
    since.groups.filter fun group => group.id ∈ ids
  findings : ∀ id ∈ ids, met.findings.get? id = since.findings.get? id

variable {own : List Uuid} {held : List GroupReport}

theorem Bears.kept (h : since.Bears ids reports) (hsame : since.SameUnder met ids) :
    met.Bears ids reports where
  groups := hsame.groups.trans h.groups
  findings id hid := (hsame.findings id hid).trans (h.findings id hid)

theorem Bears.mem_groups (h : scene.Bears ids reports) {report : GroupReport}
    (member : report ∈ reports) : report.group ∈ scene.groups := by
  have hmem : report.group ∈ scene.groups.filter fun group => group.id ∈ ids := by
    rw [h.groups]
    exact List.mem_map_of_mem member
  exact (List.mem_filter.mp hmem).1

/-- A group under one of the identifiers is that of a report. -/
theorem Bears.of_group (h : scene.Bears ids reports) {group : FindingGroup}
    (member : group ∈ scene.groups) (hid : group.id ∈ ids) :
    ∃ report ∈ reports, report.group = group := by
  have hmem : group ∈ scene.groups.filter fun group => group.id ∈ ids :=
    List.mem_filter.mpr ⟨member, decide_eq_true hid⟩
  rw [h.groups] at hmem
  exact List.mem_map.mp hmem

/-- Reports that are stored under identifiers that bear nothing are borne by these. -/
theorem bears_insertGroups (h : scene.Bears ids [])
    (hown : Store.ownReports taskId reports = true) (hids : reports.flatMap GroupReport.ids = ids)
    (hdistinct : ids.Nodup) :
    (scene.after now (.insertGroups taskId reports)).Bears ids reports := by
  rw [after_insertGroups, if_pos hown]
  constructor
  · have hnew : ((reports.map GroupReport.group).filter fun group => group.id ∈ ids) =
        reports.map GroupReport.group := by
      rw [List.filter_eq_self]
      intro group member
      obtain ⟨report, hreport, rfl⟩ := List.mem_map.mp member
      rw [← hids]
      exact decide_eq_true (List.mem_flatMap.mpr ⟨report, hreport, List.mem_cons_self⟩)
    dsimp only
    rw [List.filter_append, h.groups, hnew, List.map_nil, List.nil_append]
  · intro id hid
    dsimp only
    rw [← hids] at hdistinct
    cases hfound : (reports.flatMap GroupReport.findings).find? fun finding => finding.id = id with
    | some finding =>
      have hid : finding.id = id := by simpa using List.find?_some hfound
      rw [← hid]
      exact SortedMap.get?_foldl_insert_of_mem Finding.id (fun finding => finding) _ _
        ((findingIds_sublist reports).nodup hdistinct) (List.mem_of_find?_eq_some hfound)
    | none =>
      rw [SortedMap.get?_foldl_insert_of_not_mem Finding.id (fun finding => finding)]
      · exact h.findings id hid
      · intro finding member
        simpa using List.find?_eq_none.mp hfound finding member

/-- Storing reports touches only their own identifiers. -/
theorem sameUnder_insertGroups (hapart : ∀ id ∈ ids, id ∉ reports.flatMap GroupReport.ids) :
    scene.SameUnder (scene.after now (.insertGroups taskId reports)) ids where
  groups := by
    have hnone : ((reports.map GroupReport.group).filter fun group => group.id ∈ ids) = [] := by
      rw [List.filter_eq_nil_iff]
      intro group member hid
      obtain ⟨report, hreport, rfl⟩ := List.mem_map.mp member
      exact hapart _ (of_decide_eq_true hid)
        (List.mem_flatMap.mpr ⟨report, hreport, List.mem_cons_self⟩)
    rw [after_insertGroups]
    split
    · dsimp only
      rw [List.filter_append, hnone, List.append_nil]
    · rfl
  findings id hid := (sameAt_insertGroups (hapart id hid)).2

/-- The reports are about a task, name their findings, and have no other identifiers than
these. -/
structure Formed (taskId : Uuid) (own : List Uuid) (reports : List GroupReport) : Prop where
  taskId : ∀ report ∈ reports, report.group.taskId = taskId
  names : ∀ report ∈ reports, report.group.findingIds = report.findings.map Finding.id
  ids : ∀ id ∈ reports.flatMap GroupReport.ids, id ∈ own

theorem Formed.ownReports (h : Formed taskId own held) : Store.ownReports taskId held = true := by
  apply List.all_eq_true.mpr
  intro report member
  simpa using h.taskId report member

theorem Formed.group_id (h : Formed taskId own held) {report : GroupReport}
    (member : report ∈ held) : report.group.id ∈ own :=
  h.ids _ (List.mem_flatMap.mpr ⟨report, member, List.mem_cons_self⟩)

theorem Formed.finding_id (h : Formed taskId own held) {report : GroupReport}
    (member : report ∈ held) : ∀ id ∈ report.group.findingIds, id ∈ own := by
  intro id hid
  rw [h.names report member] at hid
  exact h.ids _ (List.mem_flatMap.mpr ⟨report, member, List.mem_cons_of_mem _ hid⟩)

/-- The findings that a group names are those of its report. -/
theorem Bears.named (h : scene.Bears own held) (hformed : Formed taskId own held)
    (hdistinct : (held.flatMap GroupReport.ids).Nodup) {report : GroupReport}
    (member : report ∈ held) :
    report.group.findingIds.filterMap scene.findings.get? = report.findings := by
  rw [hformed.names report member]
  apply filterMap_findings
  intro finding hfinding
  have hid : finding.id ∈ own := by
    apply hformed.finding_id member
    rw [hformed.names report member]
    exact List.mem_map_of_mem hfinding
  have hsole := filter_of_nodup ((findingIds_sublist held).nodup hdistinct)
    (List.mem_flatMap.mpr ⟨report, member, hfinding⟩)
  rw [h.findings finding.id hid, ← List.head?_filter, hsole]
  rfl

/-- The groups to be deleted are those of the reports. -/
theorem isNamed_iff (h : scene.Bears own held) (hformed : Formed taskId own held)
    {group : FindingGroup} (member : group ∈ scene.groups) :
    Store.isNamed taskId (held.map fun report => report.group.id) group = true ↔
      group.id ∈ own := by
  simp only [Store.isNamed, Bool.and_eq_true, decide_eq_true_eq, List.contains_iff_mem]
  constructor
  · rintro ⟨_, hid⟩
    obtain ⟨report, hreport, hsame⟩ := List.mem_map.mp hid
    exact hsame ▸ hformed.group_id hreport
  · intro hid
    obtain ⟨report, hreport, rfl⟩ := h.of_group member hid
    exact ⟨hformed.taskId report hreport, List.mem_map.mpr ⟨report, hreport, rfl⟩⟩

/-- Where the reports are taken away, nothing is left under their identifiers. -/
theorem bears_deleteGroups (h : scene.Bears own held) (hformed : Formed taskId own held) :
    (scene.after now (.deleteGroups taskId (held.map fun report => report.group.id))).Bears own
      [] := by
  constructor
  · change ((scene.groups.filter fun group => !Store.isNamed taskId _ group).filter _) = []
    rw [List.filter_eq_nil_iff]
    intro group member hid
    obtain ⟨hstored, hkept⟩ := List.mem_filter.mp member
    have hnamed := (isNamed_iff h hformed hstored).mpr (of_decide_eq_true hid)
    rw [hnamed] at hkept
    cases hkept
  · intro id hid
    change (scene.findings.eraseAll _).get? id = none
    rw [SortedMap.get?_eraseAll]
    split
    · rfl
    · rename_i herased
      rw [h.findings id hid, List.find?_eq_none]
      intro finding member hsame
      obtain ⟨report, hreport, hfinding⟩ := List.mem_flatMap.mp member
      -- A finding of the reports would have been erased with its group.
      apply herased
      rw [← of_decide_eq_true hsame]
      have hgroup := h.mem_groups hreport
      have hnamed := (isNamed_iff h hformed hgroup).mpr (hformed.group_id hreport)
      refine List.mem_flatMap.mpr ⟨report.group, List.mem_filter.mpr ⟨hgroup, hnamed⟩, ?_⟩
      rw [hformed.names report hreport]
      exact List.mem_map_of_mem hfinding

/-- Taking reports away touches only their own identifiers. -/
theorem sameUnder_deleteGroups (h : scene.Bears own held) (hformed : Formed taskId own held)
    (hapart : ∀ id ∈ ids, id ∉ own) :
    scene.SameUnder
      (scene.after now (.deleteGroups taskId (held.map fun report => report.group.id))) ids where
  groups := by
    change ((scene.groups.filter fun group => !Store.isNamed taskId _ group).filter _) = _
    rw [List.filter_filter]
    apply List.filter_congr
    intro group member
    by_cases hid : group.id ∈ ids
    · have hkept : Store.isNamed taskId (held.map fun report => report.group.id) group = false := by
        rw [Bool.eq_false_iff]
        exact fun hnamed => hapart _ hid ((isNamed_iff h hformed member).mp hnamed)
      simp [hkept]
    · simp [hid]
  findings id hid := by
    refine (sameAt_deleteGroups ?_ ?_ (hapart id hid)).2
    · intro groupId hgroup
      obtain ⟨report, hreport, rfl⟩ := List.mem_map.mp hgroup
      exact hformed.group_id hreport
    · intro group member hgroup
      obtain ⟨report, hreport, rfl⟩ := h.of_group member hgroup
      exact hformed.finding_id hreport

end Scene

/-- What a delivery stores is formed of the numbers that it has reserved. -/
theorem formed_storedReports (taskId : Uuid) (first : Nat)
    (rules : List (String × SaRuleResult)) :
    Scene.Formed taskId (numbered first (recordCount rules))
      (storedReports taskId first rules) where
  taskId report member := (storedReports_own member).1
  names report member := (storedReports_own member).2
  ids := by
    rw [storedReports_ids]
    exact fun id hid => hid

end ScanFlow
