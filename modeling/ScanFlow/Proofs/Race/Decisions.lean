import ScanFlow.Proofs.Program.Pact
import ScanFlow.Proofs.Record.Review
import ScanFlow.Proofs.Store.Audits

/-!
How far a decision about a finding has come, and what decisions side by side have in common.

A decision that is taken is recorded with its finding. Then the decisions of the task are counted,
and their number is written to the task. If all that are taken lead to the same findings with a
decision, then everyone who counts after a record counts these, whatever the others do meanwhile.
-/

namespace ScanFlow

structure Decision where
  findingId : Uuid
  request : AuditRequest

namespace Decision

def program (taskId : Uuid) (decision : Decision) : Program Unit := do
  let _ ← Orchestrator.auditFinding taskId decision.findingId decision.request

/-- The request is accepted, and there is such a finding of the task. -/
def isTaken (store : Store) (taskId : Uuid) (decision : Decision) : Bool :=
  decision.request.faults.isEmpty &&
    (store.findings.get? decision.findingId).any fun finding => finding.taskId = taskId

inductive State where
  | refused
  | ahead (findingId : Uuid)
  | recorded
  | counted (count : Nat)
  | written

def State.isRecorded : State → Bool
  | refused | ahead _ => false
  | recorded | counted _ | written => true

/-- Where a decision begins, and where it stays if it is not taken. -/
def initial (store : Store) (taskId : Uuid) (decision : Decision) : State :=
  if decision.isTaken store taskId then .ahead decision.findingId else .refused

end Decision

/-- A decision is recorded, then all are counted, and then the number is written that has been
counted. Meanwhile the findings stay what they are. -/
def deciding (start : Store) (taskId : Uuid) : Pact Decision.State where
  holds _ system := ∀ id, (system.store.findings.get? id).map Finding.unaudited =
    (start.findings.get? id).map Finding.unaudited
  grants call answer known learnt :=
    match call, answer with
    | .clock, _ => learnt = known
    | .store (.findFinding _), _ => learnt = known
    | .store (.setAudit id _), _ => known = .ahead id ∧ learnt = .recorded
    | .store (.countAudited id), count => id = taskId ∧ known = .recorded ∧ learnt = .counted count
    | .store (.setAuditCount id count), _ =>
      id = taskId ∧ known = .counted count ∧ learnt = .written
    | _, _ => False

namespace Decision

open Program

variable {start : Store} {taskId : Uuid} {system : System}

theorem isTaken_iff {decision : Decision} :
    decision.isTaken start taskId = true ↔ decision.request.faults = [] ∧
      ∃ finding, start.findings.get? decision.findingId = some finding ∧
        finding.taskId = taskId := by
  simp [isTaken, Option.any_eq_true]

theorem initial_cases (start : Store) (taskId : Uuid) (decision : Decision) :
    decision.isTaken start taskId = true ∧
        decision.initial start taskId = .ahead decision.findingId ∨
      decision.isTaken start taskId = false ∧ decision.initial start taskId = .refused := by
  unfold initial
  cases decision.isTaken start taskId with
  | true => exact Or.inl ⟨rfl, rfl⟩
  | false => exact Or.inr ⟨rfl, rfl⟩

/-- Where findings differ in their decisions at most, those of one store are those of the other. -/
theorem same_finding {store other : Store}
    (hsame : ∀ id, (store.findings.get? id).map Finding.unaudited =
      (other.findings.get? id).map Finding.unaudited)
    {id : Uuid} {finding : Finding} (hfound : store.findings.get? id = some finding) :
    ∃ same, other.findings.get? id = some same ∧ same.id = finding.id ∧
      same.taskId = finding.taskId := by
  have hother := hsame id
  rw [hfound, Option.map_some] at hother
  obtain ⟨same, hfound, heq⟩ := Option.map_eq_some_iff.mp hother.symm
  have hid : same.unaudited.id = finding.unaudited.id := congrArg Finding.id heq
  have htask : same.unaudited.taskId = finding.unaudited.taskId := congrArg Finding.taskId heq
  exact ⟨same, hfound, hid, htask⟩

/-- Whether a decision is taken does not depend on what has been decided. -/
theorem isTaken_congr {store other : Store}
    (hsame : ∀ id, (store.findings.get? id).map Finding.unaudited =
      (other.findings.get? id).map Finding.unaudited)
    (taskId : Uuid) (decision : Decision) :
    decision.isTaken store taskId = decision.isTaken other taskId := by
  rw [Bool.eq_iff_iff, isTaken_iff, isTaken_iff]
  refine and_congr_right fun _ => ⟨?_, ?_⟩
  · rintro ⟨finding, hfound, hown⟩
    obtain ⟨same, hfound, _, htask⟩ := same_finding hsame hfound
    exact ⟨same, hfound, htask.trans hown⟩
  · rintro ⟨finding, hfound, hown⟩
    obtain ⟨same, hfound, _, htask⟩ := same_finding (fun id => (hsame id).symm) hfound
    exact ⟨same, hfound, htask.trans hown⟩

/-- A decision changes nothing else about a finding. -/
theorem setAudit_same (store : Store) (id : Uuid) (audit : Audit) (other : Uuid) :
    ((store.setAudit id audit).2.findings.get? other).map Finding.unaudited =
      (store.findings.get? other).map Finding.unaudited := by
  have hfindings : (store.setAudit id audit).2.findings =
      (Store.Operation.setAudit id audit).onFindings store.groups store.findings :=
    ((Store.Operation.setAudit id audit).perform_groups .origin store).2
  rw [hfindings]
  exact System.setAudit_unaudited store.groups store.findings id audit other

def recording (taskId : Uuid) (request : AuditRequest) (missing : ServiceError)
    (finding : Finding) : Program Finding := do
  let now ← Program.clock
  if ← Program.store (.setAudit finding.id (request.audit now)) then
    let count ← Program.store (.countAudited taskId)
    Program.storeOr (.setAuditCount taskId count)
    return { finding with audit := some (request.audit now) }
  else Program.fail missing

/-- The decision is recorded and counted, and the count is written. -/
theorem recording_honors {finding : Finding} (hknown : (start.findings.get? finding.id).isSome)
    (request : AuditRequest) (missing : ServiceError) :
    (recording taskId request missing finding).Honors (deciding start taskId) (.ahead finding.id)
      fun _ learnt => learnt = .written := by
  unfold recording
  rw [honors_bind]
  refine honors_clock fun now => ⟨_, rfl, ?_⟩
  change Honors _ (_ >>= _) _ _
  rw [honors_bind]
  refine honors_store fun met moment hstill => ⟨_, ⟨rfl, rfl⟩, ?_⟩
  have hrecorded : (met.store.setAudit finding.id (request.audit now)).1 = true := by
    have hthere := congrArg Option.isSome (hstill finding.id)
    rw [Option.isSome_map, Option.isSome_map, hknown] at hthere
    rw [Store.setAudit_answer, hthere]
  unfold Onwards Store.Operation.perform
  dsimp only
  rw [hrecorded, if_pos rfl, honors_bind]
  refine honors_store fun _ _ _ => ⟨_, ⟨rfl, rfl, rfl⟩, ?_⟩
  change Honors _ (_ >>= _) _ _
  rw [honors_bind]
  refine honors_storeOr fun _ _ _ => ⟨_, ⟨rfl, rfl, rfl⟩, ?_⟩
  cases (Store.Operation.perform _ _ _).1 with
  | ok _ => rfl
  | error e => rfl

/-- A decision that is taken is recorded, counted and written; any other one is refused. -/
theorem auditFinding_honors (hindexed : start.Indexed) (decision : Decision) :
    (Orchestrator.auditFinding taskId decision.findingId decision.request).Honors
      (deciding start taskId) (decision.initial start taskId)
        fun _ learnt => learnt = .refused ∨ learnt = .written := by
  have hrefused : ¬ decision.isTaken start taskId = true →
      decision.initial start taskId = .refused ∨ decision.initial start taskId = .written :=
    fun hnot => Or.inl (if_neg hnot)
  unfold Orchestrator.auditFinding refuseFaults
  rw [honors_bind]
  split
  · rename_i hfaults
    change Honors _ (_ >>= _) _ _
    rw [honors_bind]
    apply honors_require
    intro system _ hholds
    have htaken := isTaken_congr hholds taskId decision
    refine ⟨_, rfl, ?_, ?_⟩
    · intro finding hmet
      have hmet : system.store.findings.get? decision.findingId = some finding := hmet
      unfold Onwards
      dsimp only
      split
      · rename_i hforeign
        apply hrefused
        rw [← htaken]
        simp [isTaken, hmet, hforeign]
      · rename_i hown
        obtain ⟨before, hbefore, hid, _⟩ := same_finding hholds hmet
        have hnamed : decision.findingId = finding.id := by
          rw [← hid, hindexed _ _ hbefore]
        have hahead : decision.initial start taskId = .ahead finding.id := by
          rw [initial, ← htaken, isTaken, hfaults, hmet, ← hnamed]
          simp [Decidable.not_not.mp hown]
        rw [hahead]
        have hknown : (start.findings.get? finding.id).isSome := by
          rw [← hnamed, hbefore]
          rfl
        exact honors_mono (recording_honors hknown _ _) fun _ _ => Or.inr
    · intro hnone
      have hnone : system.store.findings.get? decision.findingId = none := hnone
      apply hrefused
      rw [← htaken]
      simp [isTaken, hnone]
  · rename_i hfaults
    apply hrefused
    simp [isTaken, hfaults]

end Decision

/-! ### Decisions side by side -/

/-- What decisions about the findings of one task have in common while they are on their way. Each
of them that is taken makes the task have `full` as its findings with a decision. -/
structure Reviewing (start : Store) (taskId : Uuid) (count : Nat) (taken : Prop)
    (full : Finset Uuid) (store : Store) (knowns : List Decision.State) : Prop where
  same : ∀ id, (store.findings.get? id).map Finding.unaudited =
    (start.findings.get? id).map Finding.unaudited
  ahead : ∀ id, .ahead id ∈ knowns → insert id (start.audited taskId) = full ∧
    ∃ finding, start.findings.get? id = some finding ∧ finding.taskId = taskId
  taken : taken ↔ ∃ known ∈ knowns, known ≠ .refused
  counted : ∀ n, .counted n ∈ knowns → n = full.card
  audited : store.audited taskId = full ∧ (∃ known ∈ knowns, known.isRecorded = true) ∨
    store.audited taskId = start.audited taskId ∧ ∀ known ∈ knowns, known.isRecorded = false
  number : ∃ task, store.tasks.get? taskId = some task ∧
    (task.auditCount = full.card ∧ .written ∈ knowns ∨
      task.auditCount = count ∧ .written ∉ knowns)

namespace Reviewing

open Decision

variable {start store : Store} {taskId : Uuid} {count : Nat} {taken : Prop} {full : Finset Uuid}
  {knowns : List State} {index : Nat} {known learnt : State}

/-- No decision has made a call yet. -/
theorem of_launch {task : Task} {decisions : List Decision}
    (htask : store.tasks.get? taskId = some task)
    (hfull : ∀ decision ∈ decisions, decision.isTaken store taskId = true →
      insert decision.findingId (store.audited taskId) = full) :
    Reviewing store taskId task.auditCount
      (∃ decision ∈ decisions, decision.isTaken store taskId = true) full store
        (decisions.map (Decision.initial store taskId)) := by
  have hinitial : ∀ known ∈ decisions.map (Decision.initial store taskId),
      (∃ decision ∈ decisions, decision.isTaken store taskId = true ∧
        known = .ahead decision.findingId) ∨ known = .refused := by
    intro known hmember
    obtain ⟨decision, hdecision, rfl⟩ := List.mem_map.mp hmember
    rcases initial_cases store taskId decision with ⟨htaken, hahead⟩ | ⟨_, hrefused⟩
    · exact Or.inl ⟨decision, hdecision, htaken, hahead⟩
    · exact Or.inr hrefused
  refine
    { same := fun _ => rfl
      ahead := ?_
      taken := ?_
      counted := ?_
      audited := Or.inr ⟨rfl, ?_⟩
      number := ⟨task, htask, Or.inr ⟨rfl, ?_⟩⟩ }
  · intro id hmember
    rcases hinitial _ hmember with ⟨decision, hdecision, htaken, hahead⟩ | hrefused
    · cases hahead
      exact ⟨hfull decision hdecision htaken, (isTaken_iff.mp htaken).2⟩
    · cases hrefused
  · constructor
    · rintro ⟨decision, hdecision, htaken⟩
      refine ⟨_, List.mem_map_of_mem hdecision, ?_⟩
      rw [Decision.initial, if_pos htaken]
      nofun
    · rintro ⟨known, hmember, hopen⟩
      obtain ⟨decision, hdecision, htaken, _⟩ := (hinitial known hmember).resolve_right hopen
      exact ⟨decision, hdecision, htaken⟩
  · intro n hmember
    rcases hinitial _ hmember with ⟨_, _, _, hahead⟩ | hrefused
    · cases hahead
    · cases hrefused
  · intro known hmember
    rcases hinitial known hmember with ⟨_, _, _, rfl⟩ | rfl
    · rfl
    · rfl
  · intro hmember
    rcases hinitial _ hmember with ⟨_, _, _, hahead⟩ | hrefused
    · cases hahead
    · cases hrefused

/-- Once a decision is recorded, the findings with a decision are all that there will be. -/
theorem full_of_recorded (h : Reviewing start taskId count taken full store knowns)
    (hknown : known ∈ knowns) (hrecorded : known.isRecorded = true) :
    store.audited taskId = full := by
  rcases h.audited with ⟨hfull, _⟩ | ⟨_, hnone⟩
  · exact hfull
  · rw [hnone known hknown] at hrecorded
    cases hrecorded

/-- Where one decision has come further, all others are where they were. -/
theorem mem_of_mem_set {other : State} (hmember : other ∈ knowns.set index learnt)
    (hne : other ≠ learnt) : other ∈ knowns :=
  (List.mem_or_eq_of_mem_set hmember).resolve_right hne

theorem mem_set_of_mem {other : State} (hknown : knowns[index]? = some known)
    (hne : other ≠ known) (hmember : other ∈ knowns) : other ∈ knowns.set index learnt := by
  obtain ⟨place, hplace⟩ := List.mem_iff_getElem?.mp hmember
  refine List.mem_iff_getElem?.mpr ⟨place, ?_⟩
  rw [List.getElem?_set_ne, hplace]
  rintro rfl
  rw [hknown, Option.some.injEq] at hplace
  exact hne hplace.symm

theorem mem_learnt (hknown : knowns[index]? = some known) : learnt ∈ knowns.set index learnt :=
  List.mem_set (List.getElem?_eq_some_iff.mp hknown).1 learnt

theorem taken_set (h : Reviewing start taskId count taken full store knowns)
    (hknown : knowns[index]? = some known) (hopen : known ≠ .refused)
    (hlearnt : learnt ≠ .refused) :
    taken ↔ ∃ known ∈ knowns.set index learnt, known ≠ .refused :=
  iff_of_true (h.taken.mpr ⟨known, List.mem_of_getElem? hknown, hopen⟩)
    ⟨learnt, mem_learnt hknown, hlearnt⟩

/-- As long as nothing is written, the number stays. -/
theorem number_set {next : Store} (h : Reviewing start taskId count taken full store knowns)
    (htasks : next.tasks = store.tasks) (hknown : knowns[index]? = some known)
    (hbefore : .written ≠ known) (hafter : .written ≠ learnt) :
    ∃ task, next.tasks.get? taskId = some task ∧
      (task.auditCount = full.card ∧ .written ∈ knowns.set index learnt ∨
        task.auditCount = count ∧ .written ∉ knowns.set index learnt) := by
  rw [htasks]
  obtain ⟨task, htask, ⟨hcount, hwritten⟩ | ⟨hcount, hunwritten⟩⟩ := h.number
  · exact ⟨task, htask, Or.inl ⟨hcount, mem_set_of_mem hknown hbefore hwritten⟩⟩
  · refine ⟨task, htask, Or.inr ⟨hcount, fun hwritten => hunwritten ?_⟩⟩
    exact mem_of_mem_set hwritten hafter

/-- A decision is recorded. -/
theorem record (h : Reviewing start taskId count taken full store knowns) {id : Uuid}
    (hknown : knowns[index]? = some (.ahead id)) (audit : Audit) :
    Reviewing start taskId count taken full (store.setAudit id audit).2
      (knowns.set index .recorded) := by
  have hmember := List.mem_of_getElem? hknown
  obtain ⟨hfull, before, hbefore, hown⟩ := h.ahead id hmember
  obtain ⟨finding, hfinding, _, htask⟩ := same_finding (fun id => (h.same id).symm) hbefore
  have htasks : (store.setAudit id audit).2.tasks = store.tasks := by
    obtain ⟨findings, hrest⟩ := Store.setAudit_rest store id audit
    rw [hrest]
  refine
    { same := fun other => (setAudit_same store id audit other).trans (h.same other)
      ahead := fun other hother => h.ahead other (mem_of_mem_set hother nofun)
      taken := h.taken_set hknown nofun nofun
      counted := fun n hn => h.counted n (mem_of_mem_set hn nofun)
      audited := Or.inl ⟨?_, .recorded, mem_learnt hknown, rfl⟩
      number := h.number_set htasks hknown nofun nofun }
  rw [Store.audited_setAudit hfinding (htask.trans hown)]
  rcases h.audited with ⟨hall, _⟩ | ⟨hnone, _⟩
  · rw [hall, ← hfull, Finset.insert_idem]
  · rw [hnone, hfull]

/-- The decisions are counted. -/
theorem count_all (h : Reviewing start taskId count taken full store knowns)
    (hknown : knowns[index]? = some .recorded) :
    Reviewing start taskId count taken full store
      (knowns.set index (.counted (store.countAudited taskId))) := by
  have hfull := h.full_of_recorded (List.mem_of_getElem? hknown) rfl
  refine
    { same := h.same
      ahead := fun other hother => h.ahead other (mem_of_mem_set hother nofun)
      taken := h.taken_set hknown nofun nofun
      counted := ?_
      audited := Or.inl ⟨hfull, _, mem_learnt hknown, rfl⟩
      number := h.number_set rfl hknown nofun nofun }
  intro n hn
  rcases List.mem_or_eq_of_mem_set hn with hold | hnew
  · exact h.counted n hold
  · cases hnew
    rw [Store.countAudited_eq_card, hfull]

/-- What has been counted is written to the task. -/
theorem write (h : Reviewing start taskId count taken full store knowns) {n : Nat}
    (hknown : knowns[index]? = some (.counted n)) (now : Timestamp) :
    Reviewing start taskId count taken full
      ((Store.Operation.setAuditCount taskId n).perform now store).2
      (knowns.set index .written) := by
  have hmember := List.mem_of_getElem? hknown
  have hgroups := (Store.Operation.setAuditCount taskId n).perform_groups now store
  have hfindings : ((Store.Operation.setAuditCount taskId n).perform now store).2.findings =
      store.findings := hgroups.2
  obtain ⟨task, htask, _⟩ := h.number
  refine
    { same := fun other => hfindings ▸ h.same other
      ahead := fun other hother => h.ahead other (mem_of_mem_set hother nofun)
      taken := h.taken_set hknown nofun nofun
      counted := fun m hm => h.counted m (mem_of_mem_set hm nofun)
      audited := Or.inl ⟨?_, .written, mem_learnt hknown, rfl⟩
      number := ⟨{ task with auditCount := n }, ?_, Or.inl ⟨h.counted n hmember,
        mem_learnt hknown⟩⟩ }
  · rw [Store.audited_congr hfindings]
    exact h.full_of_recorded hmember rfl
  · rw [Store.Operation.perform_taskChange rfl, Store.get?_changeTask, if_pos rfl, htask]
    rfl

/-- Where all decisions that are taken have been written, what is written is right. -/
theorem counts (h : Reviewing start taskId count taken full store knowns)
    (hends : ∀ known ∈ knowns, known = .refused ∨ known = .written) (htaken : taken) :
    store.CountsAudits taskId := by
  obtain ⟨known, hmember, hopen⟩ := h.taken.mp htaken
  have hwritten : .written ∈ knowns := by
    rw [← (hends known hmember).resolve_left hopen]
    exact hmember
  obtain ⟨task, htask, ⟨hcount, _⟩ | ⟨_, hunwritten⟩⟩ := h.number
  · rw [← h.full_of_recorded hwritten rfl] at hcount
    exact ⟨task, htask, hcount⟩
  · exact absurd hwritten hunwritten

/-- Where no decision is taken, nothing is counted anew. -/
theorem unchanged (h : Reviewing start taskId count taken full store knowns) (hnone : ¬ taken) :
    store.audited taskId = start.audited taskId ∧
      ∃ task, store.tasks.get? taskId = some task ∧ task.auditCount = count := by
  have hrefused : ∀ known ∈ knowns, known = .refused := by
    intro known hmember
    by_contra hopen
    exact hnone (h.taken.mpr ⟨known, hmember, hopen⟩)
  constructor
  · rcases h.audited with ⟨_, known, hmember, hrecorded⟩ | ⟨hsame, _⟩
    · rw [hrefused known hmember] at hrecorded
      cases hrecorded
    · exact hsame
  · obtain ⟨task, htask, ⟨_, hwritten⟩ | ⟨hcount, _⟩⟩ := h.number
    · cases hrefused _ hwritten
    · exact ⟨task, htask, hcount⟩

end Reviewing

theorem deciding_upholds (start : Store) (taskId : Uuid) (count : Nat) (taken : Prop)
    (full : Finset Uuid) :
    (deciding start taskId).Upholds fun _ system knowns =>
      Reviewing start taskId count taken full system.store knowns where
  holds h _ := h.same
  steps := by
    intro β call env history system knowns index known learnt h hknown hgrants
    have hstays : learnt = known → knowns.set index learnt = knowns := by
      rintro rfl
      obtain ⟨hbound, hget⟩ := List.getElem?_eq_some_iff.mp hknown
      rw [← hget]
      exact List.set_getElem_self hbound
    cases call with
    | clock =>
      rw [hstays hgrants]
      exact h
    | store operation =>
      cases operation with
      | findFinding id =>
        rw [hstays hgrants]
        exact h
      | setAudit id audit =>
        obtain ⟨rfl, rfl⟩ := hgrants
        exact h.record hknown audit
      | countAudited id =>
        obtain ⟨rfl, rfl, rfl⟩ := hgrants
        exact h.count_all hknown
      | setAuditCount id n =>
        obtain ⟨rfl, rfl, rfl⟩ := hgrants
        exact h.write hknown env.now
      | _ => exact hgrants.elim
    | reserve | publish | blobExists | blobUrl => exact hgrants.elim

end ScanFlow
