import Mathlib.Data.List.Sort
import ScanFlow.Proofs.Lifecycle.Reports
import ScanFlow.Proofs.Store.Audits

/-!
Groups that are stored and taken away again.

A caller stores the groups of a task with their findings, others go on using the store, and then
the caller takes the groups away. Every operation makes the same of all other records, whether
these are there or not, so nothing is left of them in the end: the store is what it would be if
they had never been stored. The others may even read or change them in between, as long as they
store nothing else under the same identifiers.
-/

namespace ScanFlow

namespace SortedMap

variable {κ α : Type} [LT κ] [LinearKey κ] [DecidableEq κ]

/-- A map is what its look-ups find. -/
theorem ext_get? {a b : SortedMap κ α} (h : ∀ key, a.get? key = b.get? key) : a = b := by
  have hirrefl : Std.Irrefl fun x y : κ × α => x.1 < y.1 := ⟨fun x => LinearKey.lt_irrefl x.1⟩
  have hantisymm : Std.Antisymm fun x y : κ × α => x.1 < y.1 :=
    ⟨fun x _ hlt hgt => absurd (LinearKey.lt_trans hlt hgt) (LinearKey.lt_irrefl x.1)⟩
  refine SortedMap.ext (a.sorted.eq_of_mem_iff b.sorted ?_)
  rintro ⟨key, value⟩
  rw [mem_entries_iff, mem_entries_iff, h]

variable [DecidableLT κ] {map : SortedMap κ α} {key : κ} {erased : List κ}

/-- Other keys may be erased before an insertion. -/
theorem eraseAll_insert (value : α) (hkey : key ∉ erased) :
    (map.insert key value).eraseAll erased = (map.eraseAll erased).insert key value := by
  apply ext_get?
  intro other
  simp only [get?_eraseAll, get?_insert]
  by_cases hother : other = key
  · subst hother
    simp [hkey]
  · simp [hother]

/-- What is inserted at an erased key is erased with it. -/
theorem eraseAll_insert_of_mem (value : α) (hkey : key ∈ erased) :
    (map.insert key value).eraseAll erased = map.eraseAll erased := by
  apply ext_get?
  intro other
  simp only [get?_eraseAll, get?_insert]
  by_cases hother : other = key
  · subst hother
    simp [hkey]
  · simp [hother]

theorem eraseAll_foldl_insert {β : Type} (index : β → κ) (value : β → α) (records : List β)
    (map : SortedMap κ α) (hnot : ∀ record ∈ records, index record ∉ erased) :
    (records.foldl (fun table record => table.insert (index record) (value record)) map).eraseAll
        erased =
      records.foldl (fun table record => table.insert (index record) (value record))
        (map.eraseAll erased) := by
  induction records generalizing map with
  | nil => rfl
  | cons head rest ih =>
    rw [List.foldl_cons, List.foldl_cons,
      ih _ fun record member => hnot record (List.mem_cons_of_mem _ member),
      eraseAll_insert _ (hnot head List.mem_cons_self)]

end SortedMap

namespace GroupReport

def groupIds (reports : List GroupReport) : List Uuid := reports.map fun report => report.group.id

def findingIds (reports : List GroupReport) : List Uuid :=
  (reports.flatMap GroupReport.findings).map Finding.id

end GroupReport

namespace Store

variable {α : Type} {store : Store} {taskId : Uuid} {groupIds findingIds : List Uuid}
  {groups : List FindingGroup} {findings : Table Finding}

/-! ### Other groups and findings beside the same records -/

theorem changeWorkflow_beside (store : Store) (groups : List FindingGroup)
    (findings : Table Finding) (id : Uuid) (change : Workflow → Option Workflow) :
    { store with groups, findings }.changeWorkflow id change =
      ((store.changeWorkflow id change).1,
        { (store.changeWorkflow id change).2 with groups, findings }) := by
  unfold changeWorkflow
  dsimp only
  cases (store.workflows.get? id).bind change with
  | none => rfl
  | some workflow => rfl

theorem changeTask_beside (store : Store) (groups : List FindingGroup) (findings : Table Finding)
    (id : Uuid) (change : Task → Option Task) :
    { store with groups, findings }.changeTask id change =
      ((store.changeTask id change).1,
        { (store.changeTask id change).2 with groups, findings }) := by
  unfold changeTask
  dsimp only
  cases (store.tasks.get? id).bind change with
  | none => rfl
  | some task => rfl

theorem changeKnownTask_beside (store : Store) (groups : List FindingGroup)
    (findings : Table Finding) (id : Uuid) (change : Task → Option Task) :
    { store with groups, findings }.changeKnownTask id change =
      ((store.changeKnownTask id change).1,
        { (store.changeKnownTask id change).2 with groups, findings }) := by
  unfold changeKnownTask
  rw [changeTask_beside]
  dsimp only
  cases store.tasks.contains id with
  | true => rfl
  | false => rfl

theorem createWorkflow_beside (store : Store) (groups : List FindingGroup)
    (findings : Table Finding) (workflow : Workflow) (task : Task) :
    { store with groups, findings }.createWorkflow workflow task =
      ((store.createWorkflow workflow task).1,
        { (store.createWorkflow workflow task).2 with groups, findings }) := by
  unfold createWorkflow
  dsimp only
  cases store.workflows.contains workflow.id || store.tasks.contains task.id with
  | true => rfl
  | false => rfl

theorem registerCompiled_beside (store : Store) (groups : List FindingGroup)
    (findings : Table Finding) (codeId : Uuid) (file : StoredFile) :
    { store with groups, findings }.registerCompiled codeId file =
      ((store.registerCompiled codeId file).1,
        { (store.registerCompiled codeId file).2 with groups, findings }) := by
  unfold registerCompiled
  dsimp only
  cases store.codes.get? codeId with
  | none => rfl
  | some code =>
    dsimp only
    cases (code.compiledFileId.bind store.files.get?).any fun present =>
        present.objectKey = file.objectKey with
    | true => rfl
    | false => rfl

theorem insertGroups_answer (store other : Store) (taskId : Uuid) (reports : List GroupReport) :
    (store.insertGroups taskId reports).1 = (other.insertGroups taskId reports).1 := by
  unfold insertGroups
  cases reports.find? fun report => report.group.taskId ≠ taskId with
  | none => rfl
  | some foreign => rfl

namespace Operation

def overFindings : Operation α → Bool
  | .insertGroups _ _ | .deleteGroups _ _ | .groupReports _ | .findFinding _ | .setAudit _ _
  | .countAudited _ => true
  | _ => false

/-- All other operations answer the same, whatever the groups and the findings are, and leave
them alone. -/
theorem perform_beside {operation : Operation α} (helse : operation.overFindings = false)
    (now : Timestamp) (store : Store) (groups : List FindingGroup) (findings : Table Finding) :
    operation.perform now { store with groups, findings } =
      ((operation.perform now store).1,
        { (operation.perform now store).2 with groups, findings }) := by
  cases operation with
  | createWorkflow workflow task => exact createWorkflow_beside store groups findings workflow task
  | advance | finish => simp only [perform, changeWorkflow_beside]
  | setArtifact | storeSummary | setAuditCount =>
    simp only [perform, accepted, changeKnownTask_beside]
  | bindAnalysis | moveSa | moveMl | claimMerge => simp only [perform, changeTask_beside]
  | registerCompiled codeId file => exact registerCompiled_beside store groups findings codeId file
  | insertGroups | deleteGroups | groupReports | findFinding | setAudit | countAudited =>
    cases helse
  | _ => rfl

/-- What any operation makes of the store beside other groups and findings. -/
theorem next_beside (now : Timestamp) (operation : Operation α) (store : Store)
    (groups : List FindingGroup) (findings : Table Finding) :
    (operation.perform now { store with groups, findings }).2 =
      { (operation.perform now store).2 with
        groups := operation.onGroups groups
        findings := operation.onFindings groups findings } := by
  cases operation with
  | insertGroups taskId reports =>
    cases hown : ownReports taskId reports with
    | true => simp [perform, onGroups, onFindings, hown, insertGroups_own hown]
    | false => simp [perform, onGroups, onFindings, hown, insertGroups_foreign hown]
  | setAudit id audit =>
    obtain ⟨_, hrest⟩ := setAudit_rest store id audit
    simp only [perform, hrest, onGroups, onFindings]
    unfold Store.setAudit
    cases findings.get? id with
    | none => rfl
    | some finding => rfl
  | deleteGroups | groupReports | findFinding | countAudited => rfl
  | _ => exact congrArg Prod.snd (perform_beside rfl now store groups findings)

def stores (operation : Operation α) (groupIds findingIds : List Uuid) : Bool :=
  match operation with
  | .insertGroups _ reports =>
    reports.any fun report =>
      groupIds.contains report.group.id ||
        report.findings.any fun finding => findingIds.contains finding.id
  | _ => false

/-- The operation answers with something about these groups or findings: it reads a group that is
one of them or that lists one of them, or it asks for one of the findings, or counts it. -/
def sees (operation : Operation α) (store : Store) (groupIds findingIds : List Uuid) : Bool :=
  match operation with
  | .groupReports taskId =>
    store.groups.any fun group =>
      group.taskId = taskId &&
        (groupIds.contains group.id || group.findingIds.any findingIds.contains)
  | .findFinding id => findingIds.contains id
  | .setAudit id _ => findingIds.contains id
  | .countAudited taskId =>
    findingIds.any fun id => (store.findings.get? id).any fun finding => finding.taskId = taskId
  | _ => false

end Operation

/-! ### Leaving groups out -/

/-- The store without the named groups of a task, and without some findings. -/
def without (store : Store) (taskId : Uuid) (groupIds findingIds : List Uuid) : Store :=
  { store with
    groups := store.groups.filter fun group => !isNamed taskId groupIds group
    findings := store.findings.eraseAll findingIds }

/-- The named groups of a task and these findings belong together: the groups list none but these
findings, and each of these that is stored is listed by such a group. -/
structure Matched (taskId : Uuid) (groupIds findingIds : List Uuid) (groups : List FindingGroup)
    (findings : Table Finding) : Prop where
  listed : ∀ group ∈ groups, isNamed taskId groupIds group = true →
    ∀ id ∈ group.findingIds, id ∈ findingIds
  held : ∀ id ∈ findingIds, ∀ finding, findings.get? id = some finding →
    ∃ group ∈ groups, isNamed taskId groupIds group = true ∧ id ∈ group.findingIds

/-- Taking the groups away is leaving them and their findings out. -/
theorem Matched.deleteGroups
    (h : Matched taskId groupIds findingIds store.groups store.findings) :
    store.deleteGroups taskId groupIds = store.without taskId groupIds findingIds := by
  have hfindings : store.findings.eraseAll
      ((store.groups.filter (isNamed taskId groupIds)).flatMap FindingGroup.findingIds) =
        store.findings.eraseAll findingIds := by
    apply SortedMap.ext_get?
    intro id
    rw [SortedMap.get?_eraseAll, SortedMap.get?_eraseAll]
    by_cases hid : id ∈ findingIds
    · rw [if_pos hid]
      split
      · rfl
      · rename_i hunlisted
        cases hfound : store.findings.get? id with
        | none => rfl
        | some finding =>
          obtain ⟨group, member, hnamed, hlisted⟩ := h.held id hid finding hfound
          have hleft := List.mem_filter.mpr ⟨member, hnamed⟩
          exact absurd (List.mem_flatMap.mpr ⟨group, hleft, hlisted⟩) hunlisted
    · rw [if_neg hid, if_neg]
      intro hlisted
      obtain ⟨group, hleft, hlisted⟩ := List.mem_flatMap.mp hlisted
      obtain ⟨member, hnamed⟩ := List.mem_filter.mp hleft
      exact hid (h.listed group member hnamed id hlisted)
  rw [Store.deleteGroups, without, hfindings]

namespace Operation

variable {operation : Operation α}

/-- Reports that are stored otherwise have nothing to do with the named groups. -/
theorem beside_of_stores (taskId : Uuid) {task : Uuid} {reports : List GroupReport}
    (hstores : (Operation.insertGroups task reports).stores groupIds findingIds = false) :
    (∀ report ∈ reports, isNamed taskId groupIds report.group = false) ∧
      ∀ finding ∈ reports.flatMap GroupReport.findings, finding.id ∉ findingIds := by
  simp only [stores, List.any_eq_false, Bool.or_eq_true, List.any_eq_true, List.contains_iff_mem,
    not_or, not_exists, not_and] at hstores
  constructor
  · intro report member
    simp [isNamed, (hstores report member).1]
  · intro finding hfinding
    obtain ⟨report, member, hfinding⟩ := List.mem_flatMap.mp hfinding
    exact (hstores report member).2 finding hfinding

/-- What an operation makes of the groups does not hang on those that are left out. -/
theorem onGroups_without (hstores : operation.stores groupIds findingIds = false)
    (groups : List FindingGroup) :
    operation.onGroups (groups.filter fun group => !isNamed taskId groupIds group) =
      (operation.onGroups groups).filter fun group => !isNamed taskId groupIds group := by
  cases operation with
  | insertGroups task reports =>
    have hbeside := (beside_of_stores taskId hstores).1
    simp only [onGroups]
    split
    · rw [List.filter_append]
      congr 1
      symm
      rw [List.filter_eq_self]
      intro group member
      obtain ⟨report, hreport, rfl⟩ := List.mem_map.mp member
      simp [hbeside report hreport]
    · rfl
  | deleteGroups task ids =>
    simp only [onGroups, List.filter_filter, Bool.and_comm]
  | _ => rfl

/-- What an operation makes of the findings does not hang on those that are left out. -/
theorem onFindings_without (hstores : operation.stores groupIds findingIds = false)
    (h : Matched taskId groupIds findingIds groups findings) :
    operation.onFindings (groups.filter fun group => !isNamed taskId groupIds group)
        (findings.eraseAll findingIds) =
      (operation.onFindings groups findings).eraseAll findingIds := by
  cases operation with
  | insertGroups task reports =>
    have hbeside := (beside_of_stores taskId hstores).2
    simp only [onFindings]
    split
    · exact (SortedMap.eraseAll_foldl_insert Finding.id _ _ _ hbeside).symm
    · rfl
  | deleteGroups task ids =>
    apply SortedMap.ext_get?
    intro id
    simp only [onFindings]
    rw [SortedMap.get?_eraseAll, SortedMap.get?_eraseAll, SortedMap.get?_eraseAll,
      SortedMap.get?_eraseAll]
    by_cases hid : id ∈ findingIds
    · simp [hid]
    · -- Only the groups that stay can list another finding.
      have hsame : id ∈ ((groups.filter fun group => !isNamed taskId groupIds group).filter
            (isNamed task ids)).flatMap FindingGroup.findingIds ↔
          id ∈ (groups.filter (isNamed task ids)).flatMap FindingGroup.findingIds := by
        simp only [List.mem_flatMap, List.mem_filter]
        constructor
        · rintro ⟨group, ⟨⟨member, -⟩, hnamed⟩, hlisted⟩
          exact ⟨group, ⟨member, hnamed⟩, hlisted⟩
        · rintro ⟨group, ⟨member, hnamed⟩, hlisted⟩
          refine ⟨group, ⟨⟨member, ?_⟩, hnamed⟩, hlisted⟩
          rw [Bool.not_eq_true', ← Bool.not_eq_true]
          exact fun hown => hid (h.listed group member hown id hlisted)
      simp only [hsame, hid, if_false]
  | setAudit id audit =>
    simp only [onFindings, SortedMap.get?_eraseAll]
    by_cases hid : id ∈ findingIds
    · rw [if_pos hid]
      dsimp only
      split
      · rw [SortedMap.eraseAll_insert_of_mem _ hid]
      · rfl
    · rw [if_neg hid]
      split
      · rw [SortedMap.eraseAll_insert _ hid]
      · rfl
  | _ => rfl

/-- One operation on the store without the groups makes of it what it makes of the store with
them, without the groups. -/
theorem perform_without (now : Timestamp) (hstores : operation.stores groupIds findingIds = false)
    (h : Matched taskId groupIds findingIds store.groups store.findings) :
    (operation.perform now (store.without taskId groupIds findingIds)).2 =
      (operation.perform now store).2.without taskId groupIds findingIds := by
  obtain ⟨hgroups, hfindings⟩ := perform_groups now operation store
  rw [without, next_beside, onGroups_without hstores, onFindings_without hstores h, without,
    hgroups, hfindings]

end Operation

/-- Groups and findings that belong together do so after any other operation. -/
theorem Matched.perform {operation : Operation α} (now : Timestamp)
    (hstores : operation.stores groupIds findingIds = false)
    (h : Matched taskId groupIds findingIds store.groups store.findings) :
    Matched taskId groupIds findingIds (operation.perform now store).2.groups
      (operation.perform now store).2.findings := by
  obtain ⟨hgroups, hfindings⟩ := operation.perform_groups now store
  rw [hgroups, hfindings]
  cases operation with
  | insertGroups task reports =>
    obtain ⟨hnamed, hapart⟩ := Operation.beside_of_stores taskId hstores
    simp only [Operation.onGroups, Operation.onFindings]
    split
    · constructor
      · intro group member hown
        rcases List.mem_append.mp member with member | member
        · exact h.listed group member hown
        · obtain ⟨report, hreport, rfl⟩ := List.mem_map.mp member
          rw [hnamed report hreport] at hown
          cases hown
      · intro id hid finding hfound
        rw [SortedMap.get?_foldl_insert_of_not_mem Finding.id (fun finding => finding)] at hfound
        · obtain ⟨group, member, hown⟩ := h.held id hid finding hfound
          exact ⟨group, List.mem_append_left _ member, hown⟩
        · rintro stored hstored rfl
          exact hapart stored hstored hid
    · exact h
  | deleteGroups task ids =>
    simp only [Operation.onGroups, Operation.onFindings]
    constructor
    · intro group member
      exact h.listed group (List.mem_of_mem_filter member)
    · intro id hid finding hfound
      rw [SortedMap.get?_eraseAll] at hfound
      split at hfound
      · cases hfound
      · rename_i hunlisted
        obtain ⟨group, member, hown, hlisted⟩ := h.held id hid finding hfound
        -- The group that lists the finding is still there, or the finding would have gone with it.
        refine ⟨group, List.mem_filter.mpr ⟨member, ?_⟩, hown, hlisted⟩
        rw [Bool.not_eq_true', ← Bool.not_eq_true]
        intro hnamed
        have hleft := List.mem_filter.mpr ⟨member, hnamed⟩
        exact hunlisted (List.mem_flatMap.mpr ⟨group, hleft, hlisted⟩)
  | setAudit named audit =>
    simp only [Operation.onGroups, Operation.onFindings]
    refine ⟨h.listed, ?_⟩
    intro id hid finding hfound
    split at hfound
    · rename_i before hbefore
      rw [SortedMap.get?_insert] at hfound
      split at hfound
      · rename_i hsame
        rw [hsame] at hid ⊢
        exact h.held named hid before hbefore
      · exact h.held id hid finding hfound
    · exact h.held id hid finding hfound
  | _ => exact h

/-! ### Turns of other callers -/

structure Turn : Type 1 where
  {Answer : Type}
  moment : Timestamp
  operation : Operation Answer

def Turn.answer (turn : Turn) (store : Store) : turn.Answer :=
  (turn.operation.perform turn.moment store).1

def after (store : Store) (turns : List Turn) : Store :=
  turns.foldl (fun store turn => (turn.operation.perform turn.moment store).2) store

/-- Along all turns the store without the groups is the one that never had them. -/
theorem after_without {turns : List Turn}
    (hstores : ∀ turn ∈ turns, turn.operation.stores groupIds findingIds = false)
    (h : Matched taskId groupIds findingIds store.groups store.findings) :
    (store.without taskId groupIds findingIds).after turns =
        (store.after turns).without taskId groupIds findingIds ∧
      Matched taskId groupIds findingIds (store.after turns).groups
        (store.after turns).findings := by
  induction turns generalizing store with
  | nil => exact ⟨rfl, h⟩
  | cons turn rest ih =>
    -- What is left out belongs together after the turn too, so the rest leaves the same out.
    have hturn := hstores turn List.mem_cons_self
    have hrest := ih (fun later member => hstores later (List.mem_cons_of_mem turn member))
      (h.perform turn.moment hturn)
    rwa [← Operation.perform_without turn.moment hturn h] at hrest

/-- Who sees none of the groups and findings is answered the same without them. -/
theorem answer_without (now : Timestamp) {operation : Operation α}
    (hblind : operation.sees store groupIds findingIds = false) :
    (operation.perform now (store.without taskId groupIds findingIds)).1 =
      (operation.perform now store).1 := by
  cases operation with
  | groupReports task =>
    simp only [Operation.sees, List.any_eq_false, Bool.and_eq_true, decide_eq_true_eq,
      Bool.or_eq_true, List.contains_iff_mem, List.any_eq_true, not_and, not_or, not_exists]
      at hblind
    simp only [Operation.perform, Store.groupReports, without]
    have hgroups : (store.groups.filter fun group => !isNamed taskId groupIds group).filter
        (fun group => group.taskId = task) =
          store.groups.filter fun group => group.taskId = task := by
      rw [List.filter_filter]
      apply List.filter_congr
      intro group member
      by_cases htask : group.taskId = task
      · simp [isNamed, htask, (hblind group member htask).1]
      · simp [htask]
    rw [hgroups]
    apply List.map_congr_left
    intro group member
    obtain ⟨hstored, htask⟩ := List.mem_filter.mp member
    have hapart := (hblind group hstored (by simpa using htask)).2
    have hfound : ∀ id ∈ group.findingIds,
        (store.findings.eraseAll findingIds).get? id = store.findings.get? id := by
      intro id hlisted
      rw [SortedMap.get?_eraseAll, if_neg (hapart id hlisted)]
    rw [List.filterMap_congr hfound]
  | findFinding id =>
    have hid : id ∉ findingIds := by
      simpa [Operation.sees] using hblind
    simp [Operation.perform, without, SortedMap.get?_eraseAll, hid]
  | setAudit id audit =>
    have hid : id ∉ findingIds := by
      simpa [Operation.sees] using hblind
    simp only [Operation.perform, setAudit_answer, without, SortedMap.get?_eraseAll, if_neg hid]
  | countAudited task =>
    simp only [Operation.perform, countAudited_eq_card]
    congr 1
    ext id
    rw [mem_audited, mem_audited, without, SortedMap.get?_eraseAll]
    split
    · rename_i hid
      constructor
      · rintro ⟨_, hfound, -⟩
        cases hfound
      · rintro ⟨finding, hfound, htask, -⟩
        simp only [Operation.sees, List.any_eq_false, Option.any_eq_true] at hblind
        exact absurd ⟨finding, hfound, by simpa using htask⟩ (hblind id hid)
    · rfl
  | insertGroups task reports => exact insertGroups_answer _ _ task reports
  | deleteGroups => rfl
  | _ => rw [without, Operation.perform_beside rfl]

/-! ### Reports under new identifiers -/

/-- Reports about one task whose groups list their findings, all under identifiers that the store
does not hold. Among themselves the identifiers may repeat. -/
structure Novel (store : Store) (taskId : Uuid) (reports : List GroupReport) : Prop where
  own : ∀ report ∈ reports, report.group.taskId = taskId
  listed : ∀ report ∈ reports, report.group.findingIds = report.findings.map Finding.id
  groups : ∀ group ∈ store.groups, group.id ∉ GroupReport.groupIds reports
  findings : ∀ id ∈ GroupReport.findingIds reports, store.findings.get? id = none

variable {reports : List GroupReport}

/-- What is stored of an answer is new where the numbers that it takes have not been used. -/
theorem novel_storedReports {first : Nat} {rules : List (String × SaRuleResult)}
    (hgroups : ∀ group ∈ store.groups, group.id ∉ numbered first (recordCount rules))
    (hfindings : ∀ id ∈ numbered first (recordCount rules), store.findings.get? id = none) :
    store.Novel taskId (storedReports taskId first rules) where
  own _ member := (storedReports_own member).1
  listed _ member := (storedReports_own member).2
  groups group member hid := by
    obtain ⟨report, hreport, hsame⟩ := List.mem_map.mp hid
    exact hgroups group member (hsame ▸ storedReports_group_id hreport)
  findings id hid := by
    obtain ⟨finding, hfinding, rfl⟩ := List.mem_map.mp hid
    exact hfindings _ (storedReports_finding_id hfinding)

namespace Novel

theorem ownReports (h : store.Novel taskId reports) : ownReports taskId reports = true := by
  apply List.all_eq_true.mpr
  intro report member
  simpa using h.own report member

/-- The groups of the reports are named, and no others. -/
theorem named_report (h : store.Novel taskId reports) {report : GroupReport}
    (member : report ∈ reports) :
    isNamed taskId (GroupReport.groupIds reports) report.group = true := by
  have hid : report.group.id ∈ GroupReport.groupIds reports := List.mem_map.mpr ⟨_, member, rfl⟩
  simp [isNamed, h.own report member, hid]

theorem not_named (h : store.Novel taskId reports) {group : FindingGroup}
    (member : group ∈ store.groups) :
    isNamed taskId (GroupReport.groupIds reports) group = false := by
  simp [isNamed, h.groups group member]

/-- Without the reports that have just been stored, the store is the one before. -/
theorem without_inserted (h : store.Novel taskId reports) :
    (store.insertGroups taskId reports).2.without taskId (GroupReport.groupIds reports)
      (GroupReport.findingIds reports) = store := by
  have hgroups : (store.groups ++ reports.map GroupReport.group).filter
      (fun group => !isNamed taskId (GroupReport.groupIds reports) group) = store.groups := by
    rw [List.filter_append, List.filter_eq_self.mpr, List.filter_eq_nil_iff.mpr, List.append_nil]
    · intro group member
      obtain ⟨report, hreport, rfl⟩ := List.mem_map.mp member
      simp [h.named_report hreport]
    · intro group member
      simp [h.not_named member]
  have hfindings : ((reports.flatMap GroupReport.findings).foldl
      (fun table f => table.insert f.id f) store.findings).eraseAll
        (GroupReport.findingIds reports) = store.findings := by
    apply SortedMap.ext_get?
    intro id
    rw [SortedMap.get?_eraseAll]
    split
    · rename_i hid
      exact (h.findings id hid).symm
    · rename_i hid
      rw [SortedMap.get?_foldl_insert_of_not_mem Finding.id (fun finding => finding)]
      rintro finding hfinding rfl
      exact hid (List.mem_map_of_mem hfinding)
  rw [insertGroups_own h.ownReports, without, hgroups, hfindings]

theorem matched_inserted (h : store.Novel taskId reports) :
    Matched taskId (GroupReport.groupIds reports) (GroupReport.findingIds reports)
      (store.insertGroups taskId reports).2.groups
      (store.insertGroups taskId reports).2.findings := by
  rw [insertGroups_own h.ownReports]
  constructor
  · intro group member hnamed id hlisted
    rcases List.mem_append.mp member with member | member
    · rw [h.not_named member] at hnamed
      cases hnamed
    · obtain ⟨report, hreport, rfl⟩ := List.mem_map.mp member
      rw [h.listed report hreport] at hlisted
      obtain ⟨finding, hfinding, rfl⟩ := List.mem_map.mp hlisted
      exact List.mem_map_of_mem (List.mem_flatMap.mpr ⟨report, hreport, hfinding⟩)
  · intro id hid _ _
    obtain ⟨finding, hfinding, rfl⟩ := List.mem_map.mp hid
    obtain ⟨report, hreport, hfinding⟩ := List.mem_flatMap.mp hfinding
    refine ⟨report.group, ?_, h.named_report hreport, ?_⟩
    · exact List.mem_append_right _ (List.mem_map_of_mem hreport)
    · rw [h.listed report hreport]
      exact List.mem_map_of_mem hfinding

/-- Whatever turns are taken after the reports have been stored, the store without the reports is
what these turns make of the store before. -/
theorem along (h : store.Novel taskId reports) {turns : List Turn}
    (hstores : ∀ turn ∈ turns, turn.operation.stores (GroupReport.groupIds reports)
      (GroupReport.findingIds reports) = false) :
    store.after turns =
        ((store.insertGroups taskId reports).2.after turns).without taskId
          (GroupReport.groupIds reports) (GroupReport.findingIds reports) ∧
      Matched taskId (GroupReport.groupIds reports) (GroupReport.findingIds reports)
        ((store.insertGroups taskId reports).2.after turns).groups
        ((store.insertGroups taskId reports).2.after turns).findings := by
  have hwithout := after_without hstores h.matched_inserted
  rwa [h.without_inserted] at hwithout

end Novel

/-- The first group of another task is what the refusal names. -/
theorem insertGroups_refuses (hforeign : ∃ report ∈ reports, report.group.taskId ≠ taskId) :
    ∃ report ∈ reports, report.group.taskId ≠ taskId ∧
      store.insertGroups taskId reports =
        (.error (.foreignGroup report.group.id taskId), store) := by
  obtain ⟨report, hreport, hforeign⟩ := hforeign
  have hsome : (reports.find? fun report => report.group.taskId ≠ taskId).isSome = true :=
    List.find?_isSome.mpr ⟨report, hreport, by simpa using hforeign⟩
  obtain ⟨first, hfirst⟩ := Option.isSome_iff_exists.mp hsome
  refine ⟨first, List.mem_of_find?_eq_some hfirst, by simpa using List.find?_some hfirst, ?_⟩
  rw [insertGroups, hfirst]

/-- **Groups that are taken away again leave no trace.** Reports about one task under identifiers
that the store does not hold are stored. Then any callers take any turns, in which nothing else is
stored under these identifiers, and the groups are taken away. The store, with all its groups in
their order, its findings and the decisions on them, is then what those turns alone make of it; and
in between whoever saw none of the reports was answered as if there were none. Reports with a group
of another task are refused, and the store stays as it is. -/
theorem withdrawal_leaves_no_trace (store : Store) (taskId : Uuid) (reports : List GroupReport) :
    (store.Novel taskId reports →
      ∃ inserted, store.insertGroups taskId reports = (.ok (), inserted) ∧
        ∀ turns : List Turn,
          (∀ turn ∈ turns, turn.operation.stores (GroupReport.groupIds reports)
            (GroupReport.findingIds reports) = false) →
          (inserted.after turns).deleteGroups taskId (GroupReport.groupIds reports) =
              store.after turns ∧
            ∀ before turn later, turns = before ++ turn :: later →
              turn.operation.sees (inserted.after before) (GroupReport.groupIds reports)
                (GroupReport.findingIds reports) = false →
              turn.answer (inserted.after before) = turn.answer (store.after before)) ∧
    ((∃ report ∈ reports, report.group.taskId ≠ taskId) →
      ∃ report ∈ reports, report.group.taskId ≠ taskId ∧
        store.insertGroups taskId reports =
          (.error (.foreignGroup report.group.id taskId), store)) := by
  refine ⟨?_, insertGroups_refuses⟩
  intro hnovel
  refine ⟨(store.insertGroups taskId reports).2, ?_, ?_⟩
  · rw [insertGroups_own hnovel.ownReports]
  · intro turns hstores
    constructor
    · obtain ⟨hsame, hmatched⟩ := hnovel.along hstores
      rw [hsame, hmatched.deleteGroups]
    · rintro before turn later rfl hblind
      have hbefore := (hnovel.along fun turn member =>
        hstores turn (List.mem_append_left _ member)).1
      rw [hbefore]
      exact (answer_without turn.moment hblind).symm

def shopRule (line : Nat) : String × SaRuleResult :=
  ("xss",
    { ruleName := "Cross-Site Scripting", ruleCwe := "79", ruleCategory := "injection"
      ruleLevel := .low
      findings := [⟨"getParameter", "println", [{ file := "Shop.java", line }]⟩] })

def shopAudit : Audit := ⟨.confirmed, .mandatory, "escape it", ⟨5, 0⟩⟩

/-- A store with one group, whose finding has been reviewed. -/
def shopStore : Store :=
  ((empty.insertGroups ⟨2⟩ (storedReports ⟨2⟩ 1 [shopRule 7])).2.setAudit (Uuid.generated 2)
    shopAudit).2

def lateReports : List GroupReport := storedReports ⟨2⟩ 10 [shopRule 8]

/-- A third group is stored, and its finding reviewed. So is the finding under the eleventh
number, if there is one. -/
def shopTurns : List Turn :=
  [⟨⟨6, 0⟩, .insertGroups ⟨2⟩ (storedReports ⟨2⟩ 20 [shopRule 9])⟩,
    ⟨⟨7, 0⟩, .setAudit (Uuid.generated 21) shopAudit⟩,
    ⟨⟨8, 0⟩, .setAudit (Uuid.generated 11) shopAudit⟩]

/-- The second group stands between the others, and its finding has been reviewed, when it is
taken away; and nothing is left of it. Under another task it is refused. -/
theorem late_reports_leave_no_trace :
    (∃ inserted, shopStore.insertGroups ⟨2⟩ lateReports = (.ok (), inserted) ∧
      (inserted.after shopTurns).groups.map FindingGroup.id = [1, 10, 20].map Uuid.generated ∧
      (inserted.after shopTurns).countAudited ⟨2⟩ = 3 ∧
      (inserted.after shopTurns).deleteGroups ⟨2⟩ [Uuid.generated 10] =
        shopStore.after shopTurns) ∧
    (shopStore.after shopTurns).groups.map FindingGroup.id = [1, 20].map Uuid.generated ∧
    (shopStore.after shopTurns).countAudited ⟨2⟩ = 2 ∧
    shopStore.insertGroups ⟨3⟩ lateReports =
      (.error (.foreignGroup (Uuid.generated 10) ⟨3⟩), shopStore) := by
  have hnovel : shopStore.Novel ⟨2⟩ lateReports := novel_storedReports (by decide) (by decide)
  obtain ⟨inserted, hinserted, hturns⟩ :=
    (withdrawal_leaves_no_trace shopStore ⟨2⟩ lateReports).1 hnovel
  obtain ⟨hleft, -⟩ := hturns shopTurns (by decide)
  obtain ⟨report, hreport, -, hrefused⟩ :=
    (withdrawal_leaves_no_trace shopStore ⟨3⟩ lateReports).2 (by decide)
  obtain rfl := List.mem_singleton.mp hreport
  have hbetween : inserted = (shopStore.insertGroups ⟨2⟩ lateReports).2 := by
    rw [hinserted]
  refine ⟨⟨inserted, hinserted, ?_, ?_, hleft⟩, by decide, by decide, hrefused⟩
  · rw [hbetween]
    decide
  · rw [hbetween]
    decide

end Store

end ScanFlow
