import ScanFlow.Proofs.Lifecycle.Reach
import ScanFlow.Proofs.Program.Pact
import ScanFlow.Proofs.Recovery.Ended

/-!
Results are filed under numbers of their own.

The static analysis of a task refers to groups by identifiers, and a group to its findings. All
of them have been numbered by the delivery that stored them, out of a run of numbers that
nobody else has got. What one delivery stores is therefore never among the results of another
task, whatever had been stored before the first workflow.
-/

namespace ScanFlow

def Uuid.Since (base : Nat) (id : Uuid) : Prop := ∃ n, base ≤ n ∧ id = generated n

/-- A task that has been added since the start refers to what has been numbered since then, and
no number is left to be given to it once more. Every workflow has such a task. -/
structure System.Filed (start system : System) : Prop where
  keyed : system.store.Keyed
  counted : start.nextNumber ≤ system.nextNumber
  kept : ∀ id, system.store.tasks.get? id = none → start.store.tasks.get? id = none
  linked : ∀ id workflow, system.store.workflows.get? id = some workflow →
    start.store.tasks.get? workflow.taskId = none
  groups : ∀ group ∈ system.store.groups, group.id.Since start.nextNumber →
    ∀ id ∈ group.findingIds, ∃ n, n < system.nextNumber ∧ id = Uuid.generated n
  results : ∀ id task, system.store.tasks.get? id = some task →
    start.store.tasks.get? id = none → ∀ result ∈ task.sa.resultIds, result.Since start.nextNumber

/-- A program that knows `known` numbers to be taken files results under them only. -/
def filing (start : System) : Pact Nat where
  holds known system := known ≤ system.nextNumber ∧ start.Filed system
  grants call answer known learnt :=
    match call, answer with
    | .reserve count, first => learnt = known ∨ learnt = first + count
    | .store (.createWorkflow workflow task), _ =>
      learnt = known ∧ task.sa.resultIds = [] ∧ workflow.taskId = task.id
    | .store (.insertGroups _ reports), _ =>
      learnt = known ∧ ∀ report ∈ reports, ∀ id ∈ report.group.findingIds,
        ∃ n, n < known ∧ id = Uuid.generated n
    | .store (.moveSa _ _ next), _ =>
      learnt = known ∧ ∀ id ∈ next.resultIds, id.Since start.nextNumber
    | .store (.bindAnalysis id binding), _ =>
      learnt = known ∧ (start.store.tasks.get? id = none →
        ∀ result ∈ binding.sa.resultIds, result.Since start.nextNumber)
    | _, _ => learnt = known

def Call.Plain {α : Type} (call : Call α) : Prop :=
  match call with
  | .store (.createWorkflow _ _) | .store (.insertGroups _ _) | .store (.moveSa _ _ _)
  | .store (.bindAnalysis _ _) => False
  | _ => True

theorem Call.Mild.plain {α : Type} {call : Call α} (hmild : call.Mild) : call.Plain := by
  cases call with
  | store operation =>
    cases operation with
    | createWorkflow | insertGroups | moveSa | bindAnalysis => exact hmild.elim
    | _ => trivial
  | _ => trivial

variable {start : System}

theorem Call.Plain.grants {α : Type} {call : Call α} (hplain : call.Plain) (answer : α)
    (known : Nat) : (filing start).grants call answer known known := by
  cases call with
  | store operation =>
    cases operation with
    | createWorkflow | insertGroups | moveSa | bindAnalysis => exact hplain.elim
    | _ => exact rfl
  | reserve count => exact Or.inl rfl
  | _ => exact rfl

/-! ### Every call keeps what is filed -/

/-- What a granted operation makes of the results of a task. -/
theorem filing_results {α : Type} {operation : Store.Operation α} {answer : α} {known learnt : Nat}
    {now : Timestamp} {task : Task}
    (hgrants : (filing start).grants (.store operation) answer known learnt)
    (hnew : start.store.tasks.get? task.id = none)
    (htask : ∀ id ∈ task.sa.resultIds, id.Since start.nextNumber) :
    ∀ id ∈ (operation.onTask now task).sa.resultIds, id.Since start.nextNumber := by
  simp only [Store.Operation.onTask, Store.Operation.changed]
  split
  · rename_i id change hchange
    split
    · rename_i hid
      cases hnext : change task with
      | none => exact htask
      | some next =>
        rw [Option.getD_some]
        cases operation with
        | setArtifact =>
          obtain ⟨rfl, rfl⟩ := Prod.mk.inj (Option.some.inj hchange)
          rw [(Task.withArtifact?_eq_some hnext).2]
          exact htask
        | bindAnalysis =>
          obtain ⟨rfl, rfl⟩ := Prod.mk.inj (Option.some.inj hchange)
          rw [(Task.withAnalysis?_eq_some hnext).2]
          exact hgrants.2 (hid ▸ hnew)
        | moveSa =>
          obtain ⟨rfl, rfl⟩ := Prod.mk.inj (Option.some.inj hchange)
          rw [(Task.withSa?_eq_some hnext).2]
          exact hgrants.2
        | moveMl =>
          obtain ⟨rfl, rfl⟩ := Prod.mk.inj (Option.some.inj hchange)
          rw [(Task.withMl?_eq_some hnext).2]
          exact htask
        | claimMerge =>
          obtain ⟨rfl, rfl⟩ := Prod.mk.inj (Option.some.inj hchange)
          rw [(Task.withClaim?_eq_some hnext).2.2]
          exact htask
        | storeSummary | setAuditCount =>
          obtain ⟨rfl, rfl⟩ := Prod.mk.inj (Option.some.inj hchange)
          cases hnext
          exact htask
        | _ => cases hchange
    · exact htask
  · exact htask

/-- What a granted operation makes of the list of groups. -/
theorem filing_groups {α : Type} {operation : Store.Operation α} {answer : α}
    {known learnt nextNumber : Nat} {groups : List FindingGroup}
    (hgrants : (filing start).grants (.store operation) answer known learnt)
    (hknown : known ≤ nextNumber)
    (hgroups : ∀ group ∈ groups, group.id.Since start.nextNumber →
      ∀ id ∈ group.findingIds, ∃ n, n < nextNumber ∧ id = Uuid.generated n) :
    ∀ group ∈ operation.onGroups groups, group.id.Since start.nextNumber →
      ∀ id ∈ group.findingIds, ∃ n, n < nextNumber ∧ id = Uuid.generated n := by
  intro group member hsince id hid
  cases operation with
  | insertGroups taskId reports =>
    simp only [Store.Operation.onGroups] at member
    split at member
    · rcases List.mem_append.mp member with member | member
      · exact hgroups group member hsince id hid
      · obtain ⟨report, hreport, rfl⟩ := List.mem_map.mp member
        obtain ⟨n, hless, hown⟩ := hgrants.2 report hreport id hid
        exact ⟨n, Nat.lt_of_lt_of_le hless hknown, hown⟩
    · exact hgroups group member hsince id hid
  | deleteGroups taskId groupIds =>
    exact hgroups group (List.mem_filter.mp member).1 hsince id hid
  | _ => exact hgroups group member hsince id hid

theorem filing_keeps {α : Type} {operation : Store.Operation α} {now : Timestamp}
    {known learnt : Nat} {system : System}
    (hholds : (filing start).holds known system)
    (hgrants : (filing start).grants (.store operation) (operation.perform now system.store).1 known
      learnt) :
    start.Filed { system with store := (operation.perform now system.store).2 } := by
  obtain ⟨hknown, hfiled⟩ := hholds
  have hgroups : ∀ group ∈ (operation.perform now system.store).2.groups,
      group.id.Since start.nextNumber →
        ∀ id ∈ group.findingIds, ∃ n, n < system.nextNumber ∧ id = Uuid.generated n := by
    intro group member
    rw [(operation.perform_groups now system.store).1] at member
    exact filing_groups hgrants hknown hfiled.groups group member
  by_cases hold : operation.creates = false
  · have htasks := operation.get?_perform_tasks now hfiled.keyed hold
    refine ⟨hfiled.keyed.perform operation, hfiled.counted, ?_, ?_, hgroups, ?_⟩
    · intro id hnone
      rw [htasks, Option.map_eq_none_iff] at hnone
      exact hfiled.kept id hnone
    · intro id workflow hfound
      rw [operation.get?_perform_workflows now hfiled.keyed hold] at hfound
      obtain ⟨before, hbefore, rfl⟩ := Option.map_eq_some_iff.mp hfound
      have hfixed := operation.onWorkflow_fixed now before
      rw [Workflow.taskId_of_fixed hfixed]
      exact hfiled.linked id before hbefore
    · intro id task hfound hnew
      rw [htasks] at hfound
      obtain ⟨before, hbefore, rfl⟩ := Option.map_eq_some_iff.mp hfound
      have hid := hfiled.keyed.tasks id before hbefore
      exact filing_results hgrants (hid ▸ hnew) (hfiled.results id before hbefore hnew)
  · cases operation with
    | createWorkflow workflow task =>
      rcases Store.createWorkflow_cases system.store workflow task with
        hsame | ⟨_, hnone, hadded⟩
      · simp only [Store.Operation.perform, hsame]
        exact hfiled
      · have hnew := hfiled.kept task.id hnone
        refine ⟨hfiled.keyed.perform _, hfiled.counted, ?_, ?_, hgroups, ?_⟩
        · intro id hmissing
          simp only [Store.Operation.perform, hadded, SortedMap.get?_insert] at hmissing
          split at hmissing
          · cases hmissing
          · exact hfiled.kept id hmissing
        · intro id found hfound
          simp only [Store.Operation.perform, hadded, SortedMap.get?_insert] at hfound
          split at hfound
          · cases hfound
            rw [hgrants.2.2]
            exact hnew
          · exact hfiled.linked id found hfound
        · intro id found hfound hmissing
          simp only [Store.Operation.perform, hadded, SortedMap.get?_insert] at hfound
          split at hfound
          · cases hfound
            rw [hgrants.2.1]
            intro result member
            cases member
          · exact hfiled.results id found hfound hmissing
    | _ => exact absurd rfl hold

theorem System.Filed.later {system next : System} (hfiled : start.Filed system)
    (hstore : next.store = system.store) (hcount : system.nextNumber ≤ next.nextNumber) :
    start.Filed next := by
  obtain ⟨hkeyed, hcounted, hkept, hlinked, hgroups, hresults⟩ := hfiled
  rw [← hstore] at hkeyed hkept hlinked hgroups hresults
  refine ⟨hkeyed, Nat.le_trans hcounted hcount, hkept, hlinked, ?_, hresults⟩
  intro group member hsince id hid
  obtain ⟨n, hless, hown⟩ := hgroups group member hsince id hid
  exact ⟨n, Nat.lt_of_lt_of_le hless hcount, hown⟩

theorem filing_sound (start : System) : (filing start).Sound := by
  intro α call env system known learnt hholds hgrants
  have hgrows := call.nextNumber_le env system
  cases call with
  | clock | blobExists | blobUrl =>
    have hsame : learnt = known := hgrants
    rw [hsame]
    exact hholds
  | reserve count =>
    refine ⟨?_, hholds.2.later rfl hgrows⟩
    rcases hgrants with rfl | rfl
    · exact Nat.le_trans hholds.1 hgrows
    · exact Nat.le_refl _
  | publish queue payload =>
    have hsame : learnt = known := hgrants
    rw [hsame]
    refine ⟨Nat.le_trans hholds.1 hgrows, hholds.2.later ?_ hgrows⟩
    simp only [Call.perform, System.publish]
    split
    · rfl
    · rfl
  | store operation =>
    have hsame : learnt = known := by
      cases operation with
      | createWorkflow | insertGroups | moveSa | bindAnalysis => exact hgrants.1
      | _ => exact hgrants
    rw [hsame]
    exact ⟨hholds.1, filing_keeps hholds hgrants⟩

namespace Orchestrator

open Program

variable {o : Orchestrator}

/-! ### Every service files its results -/

theorem plain_obeys {α : Type} {program : Program α} (hplain : program.Only Call.Plain) :
    program.Obeys (filing start) :=
  obeys_of_only hplain fun _ answer known hcall => hcall.grants answer known

theorem mild_obeys {α : Type} {program : Program α} (hmild : program.Only Call.Mild) :
    program.Obeys (filing start) :=
  plain_obeys (only_mono hmild fun _ hcall => hcall.plain)

theorem requestAnalysis_obeys (workflow : Workflow) (task : Task) (kind : Task.Kind)
    (snapshot : TemplateSnapshot) (htask : start.store.tasks.get? task.id = none →
      ∀ id ∈ task.sa.resultIds, id.Since start.nextNumber) :
    (o.requestAnalysis workflow task kind snapshot).Obeys (filing start) := by
  have honly : (o.requestAnalysis workflow task kind snapshot).Only fun {β} (call : Call β) =>
      ∀ (answer : β) (known : Nat), (filing start).grants call answer known known := by
    apply requestAnalysis_only
    · exact fun _ _ => rfl
    · exact fun _ _ _ _ => rfl
    · intro sa ml hbinds _ _
      refine ⟨rfl, ?_⟩
      rw [hbinds.sa_resultIds]
      exact htask
    · exact fun _ _ _ _ => rfl
  exact obeys_of_only honly fun _ answer known hcall => hcall answer known

theorem abortWithoutRules_obeys (workflow : Workflow) (task : Task) (kind : Task.Kind) :
    (abortWithoutRules workflow task kind).Obeys (filing start) := by
  have honly : (abortWithoutRules workflow task kind).Only fun {β} (call : Call β) =>
      ∀ (answer : β) (known : Nat), (filing start).grants call answer known known := by
    apply abortWithoutRules_only
    · exact fun _ _ => rfl
    · intro now next hfinished _ _
      refine ⟨rfl, ?_⟩
      rw [(SaRun.finished_eq_ok hfinished).2]
      exact nofun
    · exact fun _ _ _ _ _ => rfl
    · exact fun _ _ => rfl
  exact obeys_of_only honly fun _ answer known hcall => hcall answer known

theorem dispatchAnalysis_obeys (workflow : Workflow) :
    (o.dispatchAnalysis workflow).Obeys (filing start) := by
  intro known
  unfold dispatchAnalysis
  rw [honors_bind]
  refine honors_require fun system now hholds => ⟨known, rfl, ?_, fun _ => trivial⟩
  intro task hfound
  have htask := hholds.2.results _ task hfound
  rw [← hholds.2.keyed.tasks _ task hfound] at htask
  unfold Onwards
  dsimp only
  split
  · trivial
  split
  · trivial
  · have hcapture : (captureRules workflow).Only Call.Plain :=
      captureRules_only workflow (fun _ => trivial) (fun _ => trivial) trivial
    refine obeys_bind (plain_obeys hcapture) (fun captured => ?_) known
    cases captured with
    | none => exact abortWithoutRules_obeys workflow task _
    | some snapshot => exact requestAnalysis_obeys workflow task _ snapshot htask

theorem dispatch_obeys (stage : Stage) (workflow : Workflow) :
    (o.dispatch stage workflow).Obeys (filing start) := by
  cases stage with
  | compile =>
    apply mild_obeys
    refine only_bind (only_require trivial) fun code => ?_
    refine only_bind (only_require trivial) fun source => ?_
    refine only_bind (only_blobUrl trivial) fun url => ?_
    exact only_bind (only_sendRequest trivial) fun _ => trivial
  | analysis => exact dispatchAnalysis_obeys workflow

theorem finish_obeys (id : Uuid) (status : Workflow.Status) :
    (Program.finish id status).Obeys (filing start) :=
  plain_obeys (only_bind (only_ask trivial) fun _ => trivial)

theorem chain_obeys (workflow : Workflow) : (o.chain workflow).Obeys (filing start) := by
  unfold chain
  split
  · exact fun _ => trivial
  · split
    · exact fun _ => trivial
    · refine obeys_bind (obeys_attempt (dispatch_obeys _ workflow)) fun outcome => ?_
      cases outcome with
      | ok _ => exact fun _ => trivial
      | error e => exact finish_obeys workflow.id .aborted

theorem advance_plain (workflow : Workflow) : (advance workflow).Only Call.Plain :=
  advance_only workflow trivial (fun _ => trivial) trivial

theorem conclude_plain (workflow : Workflow) (task : Task) :
    (o.conclude workflow task).Only Call.Plain :=
  conclude_only workflow task (fun _ => trivial) trivial (fun _ _ => trivial) fun _ => trivial

theorem settle_obeys (workflow : Workflow) (taskId : Uuid) :
    (o.settle workflow taskId).Obeys (filing start) := by
  unfold settle
  refine obeys_bind (plain_obeys (advance_plain workflow)) fun current => ?_
  refine obeys_bind (plain_obeys (only_ask trivial)) fun found => ?_
  cases found with
  | none => exact fun _ => trivial
  | some task =>
    refine obeys_bind (plain_obeys (conclude_plain current task)) fun _ => ?_
    split
    · exact fun _ => trivial
    · exact chain_obeys current

theorem resettle_obeys (workflow : Workflow) (task : Task) :
    (o.resettle workflow task).Obeys (filing start) := by
  unfold resettle
  split
  · exact settle_obeys workflow task.id
  · exact fun _ => trivial

theorem acceptArtifact_obeys (workflow : Workflow) (task : Task) (artifact : CompileArtifact) :
    (o.acceptArtifact workflow task artifact).Obeys (filing start) := by
  unfold acceptArtifact
  refine obeys_bind (plain_obeys (only_storeOr trivial)) fun bound => ?_
  split
  · refine obeys_bind (plain_obeys (only_newId trivial)) fun fileId => ?_
    refine obeys_bind (plain_obeys (only_ask trivial)) fun created => ?_
    refine obeys_bind (plain_obeys (only_storeOr trivial)) fun _ => ?_
    refine obeys_bind (plain_obeys (only_ask trivial)) fun now => ?_
    refine obeys_bind (plain_obeys (only_ask trivial)) fun advanced => ?_
    cases advanced with
    | none => exact fun _ => trivial
    | some advanced =>
      dsimp only
      split
      · exact finish_obeys _ _
      · exact chain_obeys advanced
  · exact fun _ => trivial

/-- Groups and findings are stored under the numbers that have just been reserved for them. -/
theorem acceptFindings_obeys (workflow : Workflow) (task : Task) (answer : SaFinished) :
    (o.acceptFindings workflow task answer).Obeys (filing start) := by
  intro known
  unfold acceptFindings
  dsimp only
  rw [honors_bind]
  apply honors_reserve
  intro system hholds
  have hfirst : start.nextNumber ≤ system.nextNumber := hholds.2.counted
  refine ⟨system.nextNumber + recordCount answer.rules, Or.inr rfl, ?_⟩
  change Honors _ (_ >>= _) _ _
  rw [honors_bind]
  refine honors_clock fun now => ⟨_, rfl, ?_⟩
  unfold Onwards
  dsimp only
  split
  · trivial
  rename_i next hfinished
  have hresults : ∀ id ∈ next.resultIds, id.Since start.nextNumber := by
    rw [(SaRun.finished_eq_ok hfinished).2]
    intro id member
    obtain ⟨report, hreport, rfl⟩ := List.mem_map.mp member
    obtain ⟨n, hless, _, hown⟩ := mem_numbered.mp (storedReports_group_id hreport)
    exact ⟨n, Nat.le_trans hfirst hless, hown⟩
  have hmove : ∀ ids : List Uuid,
      (o.endSa workflow task next (discardGroups task.id ids)).Obeys (filing start) := by
    intro ids
    unfold endSa discardGroups
    refine obeys_bind ?_ fun moved => ?_
    · intro known
      exact honors_store fun _ _ _ => ⟨known, ⟨rfl, hresults⟩, trivial⟩
    · split
      · exact settle_obeys workflow task.id
      · split
        · exact plain_obeys (only_ask trivial)
        · exact fun _ => trivial
  split
  · rw [honors_bind]
    refine honors_storeOr fun _ _ _ => ⟨_, ⟨rfl, ?_⟩, ?_⟩
    · intro report hreport id hid
      have hown : id ∈ report.ids := by
        rw [(storedReports_own hreport).2] at hid
        exact List.mem_cons_of_mem _ hid
      have hnumbered := List.mem_flatMap.mpr ⟨report, hreport, hown⟩
      rw [storedReports_ids] at hnumbered
      obtain ⟨n, _, hless, hid⟩ := mem_numbered.mp hnumbered
      exact ⟨n, hless, hid⟩
    · cases (Store.Operation.perform _ _ _).1 with
      | ok _ => exact hmove _ _
      | error e => trivial
  · exact hmove _ _

theorem resolve_plain (workflowId taskId : Uuid) :
    (resolve workflowId taskId).Only Call.Plain :=
  resolve_only workflowId taskId (fun _ => trivial) fun _ => trivial

theorem process_obeys (message : Completion) : (o.process message).Obeys (filing start) := by
  cases message with
  | compile answer =>
    refine obeys_bind (plain_obeys (only_ask trivial)) fun found => ?_
    cases found with
    | none => exact fun _ => trivial
    | some workflow =>
      dsimp only
      split
      · exact fun _ => trivial
      split
      · exact finish_obeys _ _
      split
      · exact fun _ => trivial
      refine obeys_bind (plain_obeys (only_ask trivial)) fun found => ?_
      cases found with
      | none => exact fun _ => trivial
      | some task => exact acceptArtifact_obeys workflow task _
  | sa answer =>
    refine obeys_bind (plain_obeys (resolve_plain _ _)) fun found => ?_
    cases found with
    | none => exact fun _ => trivial
    | some found =>
      dsimp only
      split
      · exact fun _ => trivial
      split
      · exact resettle_obeys _ _
      · exact acceptFindings_obeys _ _ answer
  | ml answer =>
    refine obeys_bind (plain_obeys (resolve_plain _ _)) fun found => ?_
    cases found with
    | none => exact fun _ => trivial
    | some found =>
      dsimp only
      split
      · exact fun _ => trivial
      split
      · exact resettle_obeys _ _
      refine obeys_bind (plain_obeys (only_ask trivial)) fun now => ?_
      split
      · exact fun _ => trivial
      · refine obeys_bind (plain_obeys (only_ask trivial)) fun moved => ?_
        split
        · exact settle_obeys _ _
        · exact fun _ => trivial

theorem dispatchFirst_obeys (workflow : Workflow) :
    (o.dispatchFirst workflow).Obeys (filing start) := by
  unfold dispatchFirst
  split
  · exact fun _ => trivial
  · refine obeys_bind (obeys_attempt (dispatch_obeys _ workflow)) fun outcome => ?_
    cases outcome with
    | ok _ => exact fun _ => trivial
    | error e => exact obeys_bind (finish_obeys workflow.id .aborted) fun _ _ => trivial

theorem start_obeys (submission : Submission) :
    (o.start submission).Obeys (filing start) := by
  unfold Orchestrator.start
  refine obeys_bind (plain_obeys (only_require trivial)) fun code => ?_
  refine obeys_bind (plain_obeys trivial) fun _ => ?_
  refine obeys_bind (mild_obeys (resolveTarget_mild code _)) fun target => ?_
  have hcreate : ∀ templateId : Option Uuid,
      (o.createFresh submission code target templateId).Obeys (filing start) := by
    intro templateId
    refine obeys_bind (plain_obeys (only_newId trivial)) fun taskId => ?_
    refine obeys_bind (plain_obeys (only_ask trivial)) fun taskMoment => ?_
    refine obeys_bind (plain_obeys (only_newId trivial)) fun workflowId => ?_
    refine obeys_bind (plain_obeys (only_ask trivial)) fun now => ?_
    refine obeys_bind ?_ fun _ => ?_
    · intro known
      exact honors_storeOr fun _ _ _ => ⟨known, ⟨rfl, rfl, rfl⟩, trivial⟩
    · exact obeys_bind (dispatchFirst_obeys _) fun _ => plain_obeys (only_require trivial)
  dsimp only
  split
  · exact obeys_bind (mild_obeys (resolveTemplate_mild _)) fun _ => hcreate _
  · exact hcreate _

end Orchestrator

namespace System

open Orchestrator

variable {o : Orchestrator} {system next : System}

theorem Filed.service (hfiled : start.Filed system) (hservice : Service o system next) :
    start.Filed next := by
  have hruns : ∀ {α : Type} {program : Program α} {outcome : Except ServiceError α},
      program.Obeys (filing start) → program.Runs system outcome next → start.Filed next := by
    intro α program outcome hobeys hruns
    obtain ⟨_, hholds, _⟩ := (hobeys 0).runs (filing_sound start) ⟨Nat.zero_le _, hfiled⟩ hruns
    exact hholds.2
  cases hservice with
  | registerCode upload hservice => exact hruns (mild_obeys (registerCode_mild upload)) hservice
  | start submission hservice => exact hruns (start_obeys submission) hservice
  | process _ hservice => exact hruns (process_obeys _) hservice
  | remerge taskId hservice => exact hruns (mild_obeys (remerge_mild taskId)) hservice
  | audit taskId findingId request hservice =>
    exact hruns (mild_obeys (auditFinding_mild taskId findingId request)) hservice
  | putRule rule => exact { hfiled with keyed := hfiled.keyed.putRule rule }
  | putTemplate template => exact { hfiled with keyed := hfiled.keyed.putTemplate template }

/-- Whatever had been stored before the first workflow, results are filed under numbers that
have been taken since. -/
theorem Initial.filed (hinitial : start.Initial) (hreach : Reaches o start system) :
    start.Filed system := by
  induction hreach with
  | refl =>
    refine ⟨hinitial.keyed, Nat.le_refl _, fun _ => id, ?_, ?_, ?_⟩
    · intro id workflow hfound
      rw [hinitial.workflows, SortedMap.get?_empty] at hfound
      cases hfound
    · rintro group member ⟨n, hle, hid⟩
      exact absurd hid (hinitial.numbered group member n hle)
    · intro id task hfound hnone
      rw [hnone] at hfound
      cases hfound
  | step _ hservice ih => exact ih.service hservice

end System

end ScanFlow
