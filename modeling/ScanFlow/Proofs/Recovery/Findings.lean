import ScanFlow.Proofs.Record.Reached
import ScanFlow.Proofs.Recovery.Analysis

/-!
Findings that are stored twice.

A delivery of the static analysis stores its groups first and ends the run after that, with the
identifiers of these groups for its results. A second delivery after a cut stores groups of its
own, since their identifiers are new each time. So all depends on whether the first delivery was
cut between the two calls. If it was, its groups are left: they are stored for the task, but not
among its results, and every finding is there once more.
-/

namespace ScanFlow

/-- What a stored group with its findings tells of a rule. -/
def GroupReport.reported (report : GroupReport) : String × SaRuleResult :=
  (report.group.ruleId,
    { ruleName := report.group.ruleName
      ruleCwe := report.group.ruleCwe
      ruleCategory := report.group.ruleCategory
      ruleLevel := report.group.ruleLevel
      findings := report.findings.map fun finding =>
        ⟨finding.sourceSig, finding.sinkSig, finding.path⟩ })

theorem reported_storedFindings (taskId : Uuid) (first : Nat) (findings : List SaFinding) :
    (storedFindings taskId first findings).map (fun finding =>
      (⟨finding.sourceSig, finding.sinkSig, finding.path⟩ : SaFinding)) = findings := by
  induction findings generalizing first with
  | nil => rfl
  | cons finding rest ih =>
    rw [storedFindings, List.map_cons, ih]
    rfl

/-- What is stored tells exactly of the rules that were reported. -/
theorem reported_storedReports (taskId : Uuid) (first : Nat)
    (rules : List (String × SaRuleResult)) :
    (storedReports taskId first rules).map GroupReport.reported = rules := by
  induction rules generalizing first with
  | nil => rfl
  | cons rule rest ih =>
    obtain ⟨ruleId, result⟩ := rule
    rw [storedReports, List.map_cons, ih, GroupReport.reported]
    simp only [SaRuleResult.report, reported_storedFindings]

namespace Scene

variable {scene next : Scene} {stored : List GroupReport}

/-- The groups of the task are those of the reports, in this order, with their findings. -/
structure Stores (scene : Scene) (reports : List GroupReport) : Prop where
  own : scene.own = reports.map GroupReport.group
  findings : ∀ report ∈ reports,
    report.group.findingIds.filterMap scene.findings.get? = report.findings

theorem Stores.reports (h : scene.Stores stored) : scene.reports scene.task.id = stored := by
  have hown : scene.reports scene.task.id = scene.own.map fun group =>
    ⟨group, group.findingIds.filterMap scene.findings.get?⟩ := rfl
  rw [hown, h.own, List.map_map]
  conv => rhs; rw [← List.map_id stored]
  apply List.map_congr_left
  intro report member
  rw [Function.comp_apply, h.findings report member, id]

theorem stores_nil (hnone : scene.own = []) : scene.Stores [] := ⟨hnone, nofun⟩

theorem Stores.congr (h : scene.Stores stored) (htask : next.task.id = scene.task.id)
    (hgroups : next.groups = scene.groups) (hfindings : next.findings = scene.findings) :
    next.Stores stored where
  own := by
    rw [Scene.own, hgroups, htask]
    exact h.own
  findings := by
    rw [hfindings]
    exact h.findings

def NumberedBefore (reports : List GroupReport) (number : Nat) : Prop :=
  ∀ report ∈ reports, ∀ id ∈ report.group.findingIds, ∀ n, number ≤ n → id ≠ Uuid.generated n

theorem NumberedBefore.later {number later : Nat} (h : NumberedBefore stored number)
    (hle : number ≤ later) : NumberedBefore stored later :=
  fun report member id hid n hn => h report member id hid n (Nat.le_trans hle hn)

/-- Reports of one delivery have the numbers that it has reserved. -/
theorem NumberedBefore.append {taskId : Uuid} {first : Nat} {rules : List (String × SaRuleResult)}
    (h : NumberedBefore stored first) :
    NumberedBefore (stored ++ storedReports taskId first rules) (first + recordCount rules) := by
  intro report member id hid n hn
  rcases List.mem_append.mp member with hold | hnew
  · exact h report hold id hid n (by omega)
  · rw [(storedReports_own hnew).2] at hid
    have hmem : id ∈ (storedReports taskId first rules).flatMap GroupReport.ids :=
      List.mem_flatMap.mpr ⟨report, hnew, List.mem_cons_of_mem _ hid⟩
    rw [storedReports_ids] at hmem
    obtain ⟨m, _, hlast, rfl⟩ := mem_numbered.mp hmem
    intro heq
    have hsame : m = n := Uuid.generated_injective heq
    omega

/-- Storing reports of the task puts them behind the ones that are there. -/
theorem Stores.insertGroups {first : Nat} {rules : List (String × SaRuleResult)}
    (h : scene.Stores stored)
    (hbefore : NumberedBefore stored first) (now : Timestamp) :
    (scene.after now (.insertGroups scene.task.id
      (storedReports scene.task.id first rules))).Stores
        (stored ++ storedReports scene.task.id first rules) := by
  have hdistinct : (((storedReports scene.task.id first rules).flatMap
      GroupReport.findings).map Finding.id).Nodup :=
    (findingIds_sublist _).nodup (storedReports_ids_nodup _ _ _)
  rw [after_insertGroups, if_pos (ownReports_storedReports scene.task.id first rules)]
  constructor
  · have hnew : ((storedReports scene.task.id first rules).map GroupReport.group).filter
        (fun group => group.taskId = scene.task.id) =
          (storedReports scene.task.id first rules).map GroupReport.group := by
      rw [List.filter_eq_self]
      intro group member
      obtain ⟨report, hreport, rfl⟩ := List.mem_map.mp member
      simpa using (storedReports_own hreport).1
    unfold Scene.own
    dsimp only
    rw [List.filter_append, hnew, List.map_append, ← h.own]
    rfl
  · intro report member
    dsimp only
    rcases List.mem_append.mp member with hold | hnew
    · rw [← h.findings report hold]
      apply List.filterMap_congr
      intro id hid
      apply SortedMap.get?_foldl_insert_of_not_mem Finding.id (fun finding => finding)
      intro finding hfinding heq
      have hnumber : finding.id ∈ numbered first (recordCount rules) := by
        rw [← storedReports_ids scene.task.id first rules]
        exact (findingIds_sublist _).subset (List.mem_map_of_mem hfinding)
      obtain ⟨n, hfirst, _, hn⟩ := mem_numbered.mp hnumber
      exact hbefore report hold id hid n hfirst (heq ▸ hn)
    · rw [(storedReports_own hnew).2]
      apply filterMap_findings
      intro finding hfinding
      exact SortedMap.get?_foldl_insert_of_mem Finding.id (fun finding => finding) _ _ hdistinct
        (List.mem_flatMap.mpr ⟨report, hnew, hfinding⟩)

end Scene

def Call.Settling {α : Type} (call : Call α) : Prop :=
  match call with
  | .clock => True
  | .store (.advance _ _) => True
  | .store (.findWorkflow _) => True
  | .store (.findTask _) => True
  | .store (.groupReports _) => True
  | .store (.claimMerge _ _ _) => True
  | .store (.finish _ _) => True
  | _ => False

/-- Such a call leaves the runs of the task and the stored findings alone. -/
theorem Call.Settling.moves {α : Type} {call : Call α} (hsettling : call.Settling)
    {env : Environment} {scene next : Scene} {answer : α}
    (hmoves : call.Moves env scene answer next) :
    next.workflow.id = scene.workflow.id ∧ next.task.course = scene.task.course ∧
      next.groups = scene.groups ∧ next.findings = scene.findings := by
  cases call with
  | clock =>
    cases hmoves
    exact ⟨rfl, rfl, rfl, rfl⟩
  | store operation =>
    obtain ⟨_, rfl⟩ := hmoves
    refine ⟨operation.onWorkflow_id env.now scene.workflow, ?_⟩
    cases operation with
    | advance | findWorkflow | findTask | groupReports | finish => exact ⟨rfl, rfl, rfl⟩
    | claimMerge id summary count =>
      refine ⟨?_, rfl, rfl⟩
      exact Store.Operation.changed_keeps Task.course scene.task fun _ _ h _ hnext => by
        obtain ⟨rfl, rfl⟩ := Prod.mk.inj (Option.some.inj h)
        exact Task.withClaim?_course hnext
    | _ => exact hsettling.elim
  | _ => exact hsettling.elim

namespace Orchestrator

open Program

variable {o : Orchestrator} {origin scene next : Scene} {earlier : List GroupReport}
  {answer : SaFinished} {system : System}

/-! ### Where a delivery can be cut -/

structure Awaiting (origin : Scene) (reports : List GroupReport) (scene : Scene) : Prop where
  workflow : scene.workflow = origin.workflow
  task : scene.task = origin.task
  stored : scene.Stores reports
  numbered : Scene.NumberedBefore reports scene.nextNumber

/-- The groups of a delivery are stored under the numbers that it has reserved. -/
theorem Awaiting.insertGroups {reports : List GroupReport} {first : Nat}
    {rules : List (String × SaRuleResult)} (h : Awaiting origin reports scene)
    (hbefore : Scene.NumberedBefore reports first)
    (hnext : scene.nextNumber = first + recordCount rules) (now : Timestamp) :
    Awaiting origin (reports ++ storedReports origin.task.id first rules)
      (scene.after now
        (.insertGroups origin.task.id (storedReports origin.task.id first rules))) := by
  have hstored : Scene.Stores _ (reports ++ storedReports scene.task.id first rules) :=
    h.stored.insertGroups hbefore now
  rw [h.task] at hstored
  have hnumbered : Scene.NumberedBefore (reports ++ storedReports origin.task.id first rules)
      (first + recordCount rules) := hbefore.append
  rw [← hnext] at hnumbered
  refine ⟨?_, ?_, hstored, hnumbered⟩
  · rw [Scene.after_insertGroups, if_pos (ownReports_storedReports _ _ _)]
    exact h.workflow
  · rw [Scene.after_insertGroups, if_pos (ownReports_storedReports _ _ _)]
    exact h.task

/-- The answer has been recorded, with the reports of the delivery that recorded it. Those of
earlier deliveries are stored before them. -/
structure Listing (origin : Scene) (earlier : List GroupReport) (answer : SaFinished)
    (scene : Scene) : Prop where
  workflow : scene.workflow.id = origin.workflow.id
  task : scene.task.id = origin.task.id
  kind : scene.task.kind = origin.task.kind
  ended : scene.task.sa.status.isTerminal = true
  stored : ∃ first, scene.Stores (earlier ++ storedReports origin.task.id first answer.rules) ∧
    scene.task.sa.resultIds =
      (storedReports origin.task.id first answer.rules).map fun report => report.group.id

/-- Wherever a delivery is cut, it has recorded the answer, or stored its groups, or nothing. -/
def Lists (origin : Scene) (earlier : List GroupReport) (answer : SaFinished)
    (system : System) : Prop :=
  ∃ scene, system.Shows scene ∧
    (Awaiting origin earlier scene ∨
      (∃ first, Awaiting origin (earlier ++ storedReports origin.task.id first answer.rules)
        scene) ∨
      Listing origin earlier answer scene)

def Listed (origin : Scene) (earlier : List GroupReport) (answer : SaFinished)
    (system : System) : Prop :=
  ∃ scene, system.Shows scene ∧ Listing origin earlier answer scene

theorem Listed.lists (h : Listed origin earlier answer system) :
    Lists origin earlier answer system := by
  obtain ⟨scene, hshows, hlisting⟩ := h
  exact ⟨scene, hshows, Or.inr (Or.inr hlisting)⟩

theorem Listing.congr (h : Listing origin earlier answer scene)
    (hworkflow : next.workflow.id = scene.workflow.id)
    (hcourse : next.task.course = scene.task.course) (hgroups : next.groups = scene.groups)
    (hfindings : next.findings = scene.findings) : Listing origin earlier answer next := by
  simp only [Task.course, Prod.mk.injEq] at hcourse
  obtain ⟨hid, hkind, _, _, hsa, _⟩ := hcourse
  obtain ⟨first, hstores, hids⟩ := h.stored
  refine ⟨hworkflow.trans h.workflow, hid.trans h.task, hkind.trans h.kind, ?_, first, ?_, ?_⟩
  · rw [hsa]
    exact h.ended
  · exact hstores.congr hid hgroups hfindings
  · rw [hsa]
    exact hids

/-! ### Settling -/

theorem Listed.perform (h : Listed origin earlier answer system) {α : Type} {call : Call α}
    (hsettling : call.Settling) (env : Environment) :
    Listed origin earlier answer (call.perform env system).2 := by
  obtain ⟨scene, hshows, hlisting⟩ := h
  obtain ⟨next, hmoves, hnext⟩ := hshows.perform env call
  obtain ⟨hworkflow, hcourse, hgroups, hfindings⟩ := hsettling.moves hmoves
  exact ⟨next, hnext, hlisting.congr hworkflow hcourse hgroups hfindings⟩

theorem listed_of_only {α : Type} {program : Program α} (honly : program.Only Call.Settling) :
    program.Preserves (Listed origin earlier answer) :=
  preserves_of_only (fun _ env _ hsettling hlisted => hlisted.perform hsettling env) honly

theorem advance_settling (workflow : Workflow) : (advance workflow).Only Call.Settling :=
  advance_only workflow trivial (fun _ => trivial) trivial

theorem conclude_settling (workflow : Workflow) (task : Task) :
    (o.conclude workflow task).Only Call.Settling :=
  conclude_only workflow task (fun _ => trivial) trivial (fun _ _ => trivial) fun _ => trivial

/-- Settling leaves the record of the answer alone. There is no stage left to be dispatched. -/
theorem settle_listed (hshows : system.Shows scene)
    (hlisting : Listing origin earlier answer scene)
    (hrunning : scene.workflow.status = .running)
    (hprogress : scene.workflow.progress + 1 = scene.workflow.steps ∨
      scene.workflow.progress = scene.workflow.steps) :
    (o.settle scene.workflow scene.task.id).Through (Listed origin earlier answer) system
      fun _ final => Listed origin earlier answer final := by
  have hadvance : (advance scene.workflow).Keeps alone () scene fun outcome _ reached =>
      ∃ current, outcome = .ok current ∧ current.isFullyProgressed = true ∧
        reached.task = scene.task := by
    apply advance_alone
    · rintro (hended | hfull)
      · exact absurd hrunning hended
      · exact ⟨_, rfl, by simpa [Workflow.isFullyProgressed] using hfull, rfl⟩
    · intro _ hless moment
      refine ⟨_, rfl, ?_, rfl⟩
      have hfull : scene.workflow.steps ≤ scene.workflow.progress + 1 := by omega
      exact decide_eq_true hfull
  have hlisted : Listed origin earlier answer system := ⟨scene, hshows, hlisting⟩
  have hboth := (hadvance.through hshows).and (listed_of_only (advance_settling _) system hlisted)
  unfold settle
  rw [through_bind]
  apply hboth.mono fun _ h => h.2
  rintro _ next ⟨⟨reached, hreached, current, rfl, hfull, htask⟩, hnext⟩
  change Through _ (_ >>= _) _ _
  rw [through_bind]
  apply through_findTask hreached hnext (by rw [htask])
  unfold Rest
  dsimp only
  rw [through_bind]
  apply (listed_of_only (conclude_settling current reached.task) next hnext).mono fun _ => id
  intro outcome final hfinal
  cases outcome with
  | error e => exact hfinal
  | ok _ =>
    unfold Rest
    dsimp only
    rw [if_pos hfull]
    exact hfinal

/-! ### Whole deliveries -/

/-- The run is ended, with the groups of this delivery for its results. -/
theorem endSa_listed {first : Nat} {run : SaRun}
    (hprogress : origin.workflow.progress + 1 = origin.workflow.steps ∨
      origin.workflow.progress = origin.workflow.steps)
    (hrunning : origin.workflow.status = .running) (hshows : system.Shows scene)
    (hawaiting : Awaiting origin (earlier ++ storedReports origin.task.id first answer.rules) scene)
    (hended : run.status.isTerminal = true)
    (hids : run.resultIds =
      (storedReports origin.task.id first answer.rules).map fun report => report.group.id)
    (otherwise : Program Unit) :
    (o.endSa origin.workflow origin.task run otherwise).Through (Lists origin earlier answer)
      system fun _ final => Listed origin earlier answer final := by
  have hworkflow := hawaiting.workflow
  apply through_endSa hshows hawaiting.task
  intro now next hnext
  have hlisting : Listing origin earlier answer { scene with
      task := { origin.task with
        sa := run, weaknessCount := run.weaknessCount, updatedAt := now } } :=
    ⟨by rw [hworkflow], rfl, rfl, hended, first,
      hawaiting.stored.congr (by rw [hawaiting.task]) rfl rfl, hids⟩
  have hlisted : Listed origin earlier answer next := ⟨_, hnext, hlisting⟩
  refine ⟨hlisted.lists, ?_⟩
  have hsettle := settle_listed (o := o) hnext hlisting (hworkflow ▸ hrunning)
    (by rw [hworkflow]; exact hprogress)
  dsimp only at hsettle
  rw [hworkflow] at hsettle
  exact hsettle.mono (fun _ => Listed.lists) fun _ _ => id

theorem acceptFindings_listed
    (hprogress : origin.workflow.progress + 1 = origin.workflow.steps ∨
      origin.workflow.progress = origin.workflow.steps)
    (hrunning : origin.workflow.status = .running)
    (hawaited : origin.task.sa.status = .running) (hshows : system.Shows scene)
    (hawaiting : Awaiting origin earlier scene) :
    (o.acceptFindings origin.workflow origin.task answer).Through (Lists origin earlier answer)
      system fun _ final => Listed origin earlier answer final := by
  unfold acceptFindings
  dsimp only
  rw [through_bind]
  apply through_reserve hshows
  intro next hnext _
  have hreserved : Awaiting origin earlier
      { scene with nextNumber := scene.nextNumber + recordCount answer.rules } :=
    ⟨hawaiting.workflow, hawaiting.task, hawaiting.stored.congr rfl rfl rfl,
      hawaiting.numbered.later (Nat.le_add_right _ _)⟩
  have hpoint : Lists origin earlier answer next := ⟨_, hnext, Or.inl hreserved⟩
  refine ⟨hpoint, ?_⟩
  change Through _ (_ >>= _) _ _
  rw [through_bind]
  apply through_clock hpoint
  intro moment
  unfold Rest
  dsimp only
  rw [SaRun.finished_of_running hawaited]
  dsimp only
  split
  · rw [through_bind]
    apply through_storeOr hnext
    intro now done met hdone hmet _
    rw [hdone (ownReports_storedReports _ _ _)]
    have hstill : Awaiting origin
        (earlier ++ storedReports origin.task.id scene.nextNumber answer.rules)
        (Scene.after { scene with nextNumber := scene.nextNumber + recordCount answer.rules } now
          (.insertGroups origin.task.id
            (storedReports origin.task.id scene.nextNumber answer.rules))) :=
      hreserved.insertGroups hawaiting.numbered rfl now
    refine ⟨⟨_, hmet, Or.inr (Or.inl ⟨_, hstill⟩)⟩, ?_⟩
    exact endSa_listed hprogress hrunning hmet hstill (isTerminal_of_ended rfl) rfl _
  · rename_i hnone
    have hempty : storedReports origin.task.id scene.nextNumber answer.rules = [] := by
      simpa using hnone
    have hstill : Awaiting origin
        (earlier ++ storedReports origin.task.id scene.nextNumber answer.rules)
        { scene with nextNumber := scene.nextNumber + recordCount answer.rules } := by
      rw [hempty, List.append_nil]
      exact hreserved
    exact endSa_listed hprogress hrunning hnext hstill (isTerminal_of_ended rfl) rfl _

/-- While the answer is awaited, a delivery stores its groups behind those that are there, and
records them. -/
theorem onSaFinished_listed
    (hprogress : origin.workflow.progress + 1 = origin.workflow.steps ∨
      origin.workflow.progress = origin.workflow.steps)
    (hrunning : origin.workflow.status = .running) (hruns : origin.task.runsSa = true)
    (hawaited : origin.task.sa.status = .running)
    (hworkflow : answer.workflowId = origin.workflow.id)
    (htask : answer.taskId = origin.task.id) (hshows : system.Shows scene)
    (hawaiting : Awaiting origin earlier scene) :
    (o.onSaFinished answer).Through (Lists origin earlier answer) system
      fun _ final => Listed origin earlier answer final := by
  have hpoint : Lists origin earlier answer system := ⟨scene, hshows, Or.inl hawaiting⟩
  unfold onSaFinished
  rw [through_bind]
  apply resolve_through hshows hpoint (by rw [hworkflow, hawaiting.workflow])
    (by rw [htask, hawaiting.task])
  unfold Rest
  dsimp only
  rw [hawaiting.workflow, hawaiting.task, if_neg (by simp [hruns]),
    if_neg (by simp [hawaited, RunStatus.isTerminal])]
  exact acceptFindings_listed hprogress hrunning hawaited hshows hawaiting

/-- Once the answer has been recorded, a delivery leaves the record alone. -/
theorem onSaFinished_settled (hruns : origin.task.runsSa = true)
    (hworkflow : answer.workflowId = scene.workflow.id)
    (htask : answer.taskId = scene.task.id) (hshows : system.Shows scene)
    (hlisting : Listing origin earlier answer scene)
    (hprogress : scene.workflow.status = .running →
      scene.workflow.progress + 1 = scene.workflow.steps ∨
        scene.workflow.progress = scene.workflow.steps) :
    (o.onSaFinished answer).Through (Listed origin earlier answer) system
      fun _ final => Listed origin earlier answer final := by
  have hpoint : Listed origin earlier answer system := ⟨scene, hshows, hlisting⟩
  have hstill : scene.task.runsSa = true := by
    rw [Task.runsSa, hlisting.kind]
    exact hruns
  unfold onSaFinished
  rw [through_bind]
  apply resolve_through hshows hpoint hworkflow htask
  unfold Rest
  dsimp only
  rw [if_neg (by simp [hstill]), if_pos hlisting.ended]
  unfold resettle
  split
  · rename_i hrunning
    rw [Workflow.isRunning_iff] at hrunning
    exact settle_listed hshows hlisting hrunning (hprogress hrunning)
  · exact hpoint

end Orchestrator

namespace System

open Orchestrator

variable {o : Orchestrator} {start system mid after : System} {id : Uuid}

def Leftover (system : System) (taskId : Uuid) : Prop :=
  system.store.groupReports taskId ≠ [] ∧
    ∃ task, system.store.tasks.get? taskId = some task ∧ task.sa.status = .running

/-- The findings of a task are stored once: the groups that are stored are the ones that the task
lists, and they tell of just these rules. -/
structure ListedOnce (system : System) (taskId : Uuid) (rules : List (String × SaRuleResult)) :
    Prop where
  listed : ∃ task, system.store.tasks.get? taskId = some task ∧
    (system.store.groupReports taskId).map (fun report => report.group.id) = task.sa.resultIds
  once : (system.store.groupReports taskId).map GroupReport.reported = rules

/-- The findings of a task are stored twice: the task lists the later groups only. -/
structure ListedTwice (system : System) (taskId : Uuid) (rules : List (String × SaRuleResult)) :
    Prop where
  listed : ∃ task, system.store.tasks.get? taskId = some task ∧
    ((system.store.groupReports taskId).drop rules.length).map (fun report => report.group.id) =
      task.sa.resultIds
  twice : (system.store.groupReports taskId).map GroupReport.reported = rules ++ rules

theorem Shows.stored {scene : Scene} {reports : List GroupReport} (hshows : system.Shows scene)
    (hstores : scene.Stores reports) : system.store.groupReports scene.task.id = reports := by
  rw [groupReports_eq hshows]
  exact hstores.reports

variable {origin : Scene} {answer : SaFinished}

theorem listedOnce_of_listed (h : Listed origin [] answer system) :
    system.ListedOnce origin.task.id answer.rules := by
  obtain ⟨scene, hshows, hlisting⟩ := h
  obtain ⟨first, hstores, hids⟩ := hlisting.stored
  have hstored := hshows.stored hstores
  rw [hlisting.task, List.nil_append] at hstored
  refine ⟨⟨scene.task, hlisting.task ▸ hshows.task, ?_⟩, ?_⟩
  · rw [hstored, hids]
  · rw [hstored]
    exact reported_storedReports _ _ _

theorem listedTwice_of_listed {first : Nat}
    (h : Listed origin (storedReports origin.task.id first answer.rules) answer system) :
    system.ListedTwice origin.task.id answer.rules := by
  obtain ⟨scene, hshows, hlisting⟩ := h
  obtain ⟨second, hstores, hids⟩ := hlisting.stored
  have hstored := hshows.stored hstores
  rw [hlisting.task] at hstored
  refine ⟨⟨scene.task, hlisting.task ▸ hshows.task, ?_⟩, ?_⟩
  · rw [hstored, hids, List.drop_left' (storedReports_length _ _ _)]
  · rw [hstored, List.map_append, reported_storedReports, reported_storedReports]

/-- What has been stored while the answer is awaited is left over, if it is anything. -/
theorem leftover_iff {scene : Scene} {reports : List GroupReport} (hshows : system.Shows scene)
    (hawaited : origin.task.sa.status = .running) (hawaiting : Awaiting origin reports scene) :
    system.Leftover origin.task.id ↔ reports ≠ [] := by
  have htask := hawaiting.task
  have hstored := hshows.stored hawaiting.stored
  rw [htask] at hstored
  have hfound : system.store.tasks.get? origin.task.id = some origin.task := by
    rw [← htask]
    exact hshows.task
  unfold Leftover
  rw [hstored]
  exact ⟨fun h => h.1, fun h => ⟨h, _, hfound, hawaited⟩⟩

theorem not_leftover {scene : Scene} {earlier : List GroupReport} (hshows : system.Shows scene)
    (hlisting : Listing origin earlier answer scene) : ¬ system.Leftover origin.task.id := by
  rintro ⟨_, task, hfound, hrunning⟩
  rw [← hlisting.task, hshows.task, Option.some.injEq] at hfound
  have hended := hlisting.ended
  rw [hfound, hrunning] at hended
  cases hended

/-- Where nothing is left over, the findings are stored once. -/
theorem listed_of_clean (hclean : ¬ mid.Leftover origin.task.id)
    (hlisted : Listed origin [] answer after) :
    (after.ListedOnce origin.task.id answer.rules ↔ ¬ mid.Leftover origin.task.id) ∧
      (mid.Leftover origin.task.id → after.ListedTwice origin.task.id answer.rules) :=
  ⟨iff_of_true (listedOnce_of_listed hlisted) hclean, fun hleft => absurd hleft hclean⟩

/-- Where the groups of a whole answer are left over, each finding is stored once more. -/
theorem listed_of_stored {scene : Scene} {first : Nat} (hshows : mid.Shows scene)
    (hawaited : origin.task.sa.status = .running)
    (hawaiting : Awaiting origin (storedReports origin.task.id first answer.rules) scene)
    (hlisted : Listed origin (storedReports origin.task.id first answer.rules) answer after) :
    (after.ListedOnce origin.task.id answer.rules ↔ ¬ mid.Leftover origin.task.id) ∧
      (mid.Leftover origin.task.id → after.ListedTwice origin.task.id answer.rules) := by
  have htwice := listedTwice_of_listed hlisted
  have hempty : answer.rules = [] ↔ storedReports origin.task.id first answer.rules = [] := by
    rw [← List.length_eq_zero_iff, ← List.length_eq_zero_iff, storedReports_length]
  rw [leftover_iff hshows hawaited hawaiting, not_not, ← hempty]
  refine ⟨⟨?_, ?_⟩, fun _ => htwice⟩
  · intro honce
    have hlength := congrArg List.length (honce.once.symm.trans htwice.twice)
    rw [List.length_append] at hlength
    exact List.length_eq_zero_iff.mp (by omega)
  · intro hnothing
    rw [hempty.mp hnothing] at hlisted
    exact listedOnce_of_listed hlisted

/-- An answer of the static analysis that is cut and delivered again is stored once, unless it was
cut after its groups had been stored and before the run was ended. If it was, every finding that it
reports is stored twice. -/
theorem listed_once_iff (hstart : start.Unsubmitted) (hreach : Reaches o start system)
    {workflow : Workflow} {task : Task}
    (hworkflow : system.store.workflows.get? id = some workflow)
    (htask : system.store.tasks.get? workflow.taskId = some task)
    (hrunning : workflow.status = .running) (hawaited : task.sa.status = .running)
    (hanswers : (Completion.sa answer).Answers id task.id)
    (hcut : (o.process (.sa answer)).Cut system mid) {outcome : Except ServiceError Unit}
    (hagain : (o.process (.sa answer)).Runs mid outcome after) :
    (after.ListedOnce task.id answer.rules ↔ ¬ mid.Leftover task.id) ∧
      (mid.Leftover task.id → after.ListedTwice task.id answer.rules) := by
  obtain ⟨hsound, hnumbered⟩ := hstart.toInitial.reaches hreach
  obtain ⟨origin, rfl, rfl, rfl, _, hshows, _, hphase⟩ :=
    hsound.scene_pair hworkflow htask (hsound.keyed.tasks _ task htask).symm
  obtain ⟨_, habout⟩ := hanswers
  have horderly := ((hstart.inOrder hreach).scenes origin hshows).1
  have hruns : origin.task.runsSa = true := (horderly.consistent.sa.begun (Or.inl hawaited)).2.2
  have hprogress := progress_of_analysing (hphase.analysing_of_started hrunning (Or.inl hawaited))
  have hnone : origin.own = [] := horderly.own_eq_nil (by rw [hawaited]; nofun)
  have hawaiting : Awaiting origin [] origin :=
    ⟨rfl, rfl, Scene.stores_nil hnone, fun _ member => nomatch member⟩
  have hdelivered {earlier : List GroupReport} {scene : Scene} (hscene : mid.Shows scene)
      (hawaits : Awaiting origin earlier scene) : Listed origin earlier answer after :=
    (onSaFinished_listed hprogress hrunning hruns hawaited habout.1 habout.2 hscene hawaits).runs
      hagain
  have hlists : Lists origin [] answer mid :=
    (onSaFinished_listed (o := o) hprogress hrunning hruns hawaited habout.1 habout.2 hshows
      hawaiting).cut hcut ⟨origin, hshows, Or.inl hawaiting⟩
  obtain ⟨scene, hscene, hawaits | ⟨first, hawaits⟩ | hlisting⟩ := hlists
  · -- Nothing had been stored.
    refine listed_of_clean ?_ (hdelivered hscene hawaits)
    simp [leftover_iff hscene hawaited hawaits]
  · -- The groups had been stored.
    rw [List.nil_append] at hawaits
    exact listed_of_stored hscene hawaited hawaits (hdelivered hscene hawaits)
  · -- The answer had been recorded.
    have hunanswered : Unanswered origin (.sa answer) origin := by
      refine ⟨rfl, rfl, ?_, fun _ => rfl⟩
      rw [← hshows.groups, ← hshows.nextNumber]
      exact hnumbered
    obtain ⟨same, hsame, hopen | hsettles⟩ :=
      (onSaFinished_through (o := o) hprogress hrunning hruns hawaited habout.1 habout.2 hshows
        (Or.inl hunanswered)).cut hcut ⟨origin, hshows, Or.inl hunanswered⟩
    · have hended := hlisting.ended
      rw [hscene.unique hsame (by rw [hlisting.workflow, hopen.workflow]), hopen.task,
        hawaited] at hended
      cases hended
    · cases hscene.unique hsame (hlisting.workflow.trans hsettles.workflow.symm)
      exact listed_of_clean (not_leftover hscene hlisting)
        ((onSaFinished_settled hruns (habout.1.trans hsettles.workflow.symm)
          (habout.2.trans hsettles.task.symm) hscene hlisting hsettles.progress).runs hagain)

/-- The answer of the static analysis, given up after its groups have been stored. -/
def storedOnly : System :=
  ((smallOrchestrator.process (.sa foundOne)).solo quietWorld 5 (compiled .compileSa)).2

def storedAgain : System :=
  ((smallOrchestrator.process (.sa foundOne)).run quietWorld storedOnly).2

/-- The scan is complete, with two groups of which the task lists one. -/
theorem interrupted_answer_leaves_group :
    Reaches smallOrchestrator .empty (compiled .compileSa) ∧
      ((compiled .compileSa).store.workflows.get? (Uuid.generated 3)).map (fun workflow =>
        (workflow.status, workflow.taskId)) = some (.running, Uuid.generated 2) ∧
      ((compiled .compileSa).store.tasks.get? (Uuid.generated 2)).map (fun task =>
        task.sa.status) = some .running ∧
      (Completion.sa foundOne).Answers (Uuid.generated 3) (Uuid.generated 2) ∧
      foundOne.success = true ∧
      (smallOrchestrator.process (.sa foundOne)).Cut (compiled .compileSa) storedOnly ∧
      (∃ outcome, (smallOrchestrator.process (.sa foundOne)).Runs storedOnly outcome storedAgain) ∧
      (storedAgain.store.workflows.get? (Uuid.generated 3)).map Workflow.status = some .complete ∧
      (storedAgain.store.groupReports (Uuid.generated 2)).length = 2 ∧
      (storedAgain.store.tasks.get? (Uuid.generated 2)).map (fun task =>
        task.sa.resultIds.length) = some 1 := by
  refine ⟨reaches_compiled .compileSa, ?_, ?_, ⟨⟨.saFinish, foundOne.toJson, rfl⟩, rfl, rfl⟩, rfl,
    Program.cut_solo quietWorld 5 _ _, ⟨_, runs_quietly _ _⟩, ?_, ?_, ?_⟩
  · decide +kernel
  · decide +kernel
  · decide +kernel
  · decide +kernel
  · decide +kernel

/-- The group that was left over has made its finding appear twice. -/
theorem leftover_listed_twice :
    ∃ workflow task, (compiled .compileSa).store.workflows.get? (Uuid.generated 3) = some workflow ∧
      (compiled .compileSa).store.tasks.get? workflow.taskId = some task ∧
      workflow.status = .running ∧ task.sa.status = .running ∧ task.id = Uuid.generated 2 ∧
      storedOnly.Leftover (Uuid.generated 2) ∧
      storedAgain.ListedTwice (Uuid.generated 2) foundOne.rules := by
  have hworkflow : ((compiled .compileSa).store.workflows.get? (Uuid.generated 3)).map
      (fun workflow => (workflow.status, workflow.taskId)) =
        some (.running, Uuid.generated 2) := by
    decide +kernel
  have htask : ((compiled .compileSa).store.tasks.get? (Uuid.generated 2)).map
      (fun task => (task.id, task.sa.status)) = some (Uuid.generated 2, .running) := by
    decide +kernel
  have hleft : storedOnly.Leftover (Uuid.generated 2) := by
    have hopen : (storedOnly.store.tasks.get? (Uuid.generated 2)).map
        (fun task => task.sa.status) = some .running := by
      decide +kernel
    obtain ⟨task, hfound, hruns⟩ := Option.map_eq_some_iff.mp hopen
    exact ⟨by decide +kernel, task, hfound, hruns⟩
  obtain ⟨workflow, hworkflow, hstate⟩ := Option.map_eq_some_iff.mp hworkflow
  obtain ⟨task, htask, hruns⟩ := Option.map_eq_some_iff.mp htask
  obtain ⟨hrunning, hlinked⟩ := Prod.mk.inj hstate
  obtain ⟨hid, hawaited⟩ := Prod.mk.inj hruns
  rw [← hlinked] at htask
  have hanswers : (Completion.sa foundOne).Answers (Uuid.generated 3) task.id := by
    rw [hid]
    exact ⟨⟨.saFinish, foundOne.toJson, rfl⟩, rfl, rfl⟩
  have htwice := (listed_once_iff unsubmitted_empty (reaches_compiled .compileSa) hworkflow htask
    hrunning hawaited hanswers (Program.cut_solo quietWorld 5 _ _) (runs_quietly _ _)).2
  rw [hid] at htwice
  exact ⟨workflow, task, hworkflow, htask, hrunning, hawaited, hid, hleft, htwice hleft⟩

end System

end ScanFlow
