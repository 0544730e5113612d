import ScanFlow.Proofs.Lifecycle.Phase
import ScanFlow.Proofs.Merge.Success
import ScanFlow.Proofs.Program.Interleaving
import ScanFlow.Proofs.Race.Ledger

/-!
The answers of two engines that race for one task: what their deliveries grant each other.

Two things are private to a delivery: the identifiers that it has taken for what it stores,
and whether it owes the workflow a settlement. It owes one as soon as it has ended an engine
run, and until it has read that the other run is still awaited, or has ended the workflow. All
else is common. Every call that a delivery makes is one of few kinds, each with a condition
under which it keeps the common state lawful; the conditions are what deliveries grant, and
what the lawful state says is what they rely on.
-/

namespace ScanFlow

/-- What a delivery has of its own: the identifiers under which it stores and deletes, and
whether it still has to settle the workflow. -/
structure Share where
  own : List Uuid
  owes : Bool

def Scene.Sunk (scene : Scene) : Prop :=
  ∀ report ∈ scene.results, ∀ finding ∈ report.findings, finding.sinkFile ≠ ""

def Scene.Taken (scene : Scene) (id : Uuid) : Prop :=
  ∃ n, n < scene.nextNumber ∧ id = Uuid.generated n

def Event.claims (taskId : Uuid) : Event → Bool
  | ⟨.store (.claimMerge id _ _), won⟩ => decide (id = taskId) && won
  | _ => false

/-- Whether the merge of a task is claimed changes with a claim that is won, and only so. -/
theorem Call.Moves.claims {β : Type} {call : Call β} {env : Environment} {met reached : Scene}
    {answer : β} (hmoves : call.Moves env met answer reached) :
    reached.task.mergeClaimed.toNat = met.task.mergeClaimed.toNat +
      if Event.claims met.task.id ⟨call, answer⟩ = true then 1 else 0 := by
  cases call with
  | store operation =>
    obtain ⟨hanswer, rfl⟩ := hmoves
    change (operation.onTask env.now met.task).mergeClaimed.toNat = _
    cases operation with
    | claimMerge id summary count =>
      unfold Store.Operation.onTask Store.Operation.changed
      dsimp only [Store.Operation.taskChange?, Event.claims]
      by_cases hid : id = met.task.id
      · rw [if_pos hid, hanswer hid]
        cases hnext : met.task.withClaim? summary count env.now with
        | none => simp
        | some changed =>
          obtain ⟨hopen, _, rfl⟩ := Task.withClaim?_eq_some hnext
          simp [hopen, hid]
      · rw [if_neg hid]
        simp [hid]
    | setArtifact =>
      apply congrArg Bool.toNat
      apply Store.Operation.changed_keeps Task.mergeClaimed
      rintro _ _ hchange next hnext
      obtain ⟨rfl, rfl⟩ := Prod.mk.inj (Option.some.inj hchange)
      rw [(Task.withArtifact?_eq_some hnext).2]
    | bindAnalysis =>
      apply congrArg Bool.toNat
      apply Store.Operation.changed_keeps Task.mergeClaimed
      rintro _ _ hchange next hnext
      obtain ⟨rfl, rfl⟩ := Prod.mk.inj (Option.some.inj hchange)
      rw [(Task.withAnalysis?_eq_some hnext).2]
    | moveSa =>
      apply congrArg Bool.toNat
      apply Store.Operation.changed_keeps Task.mergeClaimed
      rintro _ _ hchange next hnext
      obtain ⟨rfl, rfl⟩ := Prod.mk.inj (Option.some.inj hchange)
      rw [(Task.withSa?_eq_some hnext).2]
    | moveMl =>
      apply congrArg Bool.toNat
      apply Store.Operation.changed_keeps Task.mergeClaimed
      rintro _ _ hchange next hnext
      obtain ⟨rfl, rfl⟩ := Prod.mk.inj (Option.some.inj hchange)
      rw [(Task.withMl?_eq_some hnext).2]
    | storeSummary | setAuditCount =>
      apply congrArg Bool.toNat
      apply Store.Operation.changed_keeps Task.mergeClaimed
      rintro _ _ hchange next hnext
      obtain ⟨rfl, rfl⟩ := Prod.mk.inj (Option.some.inj hchange)
      cases hnext
      rfl
    | _ => rfl
  | _ =>
    rcases hmoves.cases with ⟨nextNumber, rfl⟩ | ⟨_, hstore, _⟩
    · rfl
    · cases hstore

namespace Orchestrator

open Program

/-- A task whose analysis has been dispatched to both engines, with its workflow, in whatever
order their answers come in. -/
structure Lawful (o : Orchestrator) (origin scene : Scene) : Prop where
  fixed : scene.workflow.fixed = origin.workflow.fixed
  id : scene.task.id = origin.task.id
  kind : scene.task.kind = some .saMl
  snapshot : scene.task.snapshot = origin.task.snapshot
  upper : scene.workflow.progress ≤ scene.workflow.steps
  lower : scene.workflow.steps ≤ scene.workflow.progress + 1
  ended : scene.workflow.status ≠ .running → scene.workflow.progress = scene.workflow.steps
  sa : scene.task.sa.status ≠ .pending
  ml : scene.task.ml.status ≠ .pending
  recorded : scene.task.sa.status = .success →
    scene.Recorded scene.task.sa.resultIds scene.results ∧
      ∀ id ∈ scene.results.flatMap GroupReport.ids, scene.Taken id
  probable : scene.task.ml.status = .success →
    ∃ report, scene.task.ml.rawResult = some report ∧ report.Probable
  claimed : scene.task.mergeClaimed = true → scene.task.bothSucceeded = true ∧
    o.mergeRecords scene.task scene.results = .ok scene.task.summary.results
  unclaimed : scene.task.mergeClaimed = false → scene.task.summary = origin.task.summary
  complete : scene.workflow.status = .complete → scene.task.bothSucceeded = true ∧
    (scene.Sunk → scene.task.mergeClaimed = true)
  aborted : scene.workflow.status = .aborted → scene.task.bothTerminal = true ∧
    scene.task.bothSucceeded = false
  numbered : ∀ group ∈ scene.groups, ∀ n, scene.nextNumber ≤ n → group.id ≠ Uuid.generated n

/-- What other deliveries may have changed meanwhile: nothing that has ended, and nothing under
identifiers of one's own. -/
structure Later (own : List Uuid) (since met : Scene) : Prop where
  sa : since.task.sa.status.isTerminal = true → met.task.sa = since.task.sa
  ml : since.task.ml.status.isTerminal = true → met.task.ml = since.task.ml
  results : since.task.sa.status = .success → met.results = since.results
  claimed : since.task.mergeClaimed = true → met.task.mergeClaimed = true
  progress : since.workflow.progress ≤ met.workflow.progress
  same : ∀ id ∈ own, since.SameAt met id

def Granted {β : Type} (o : Orchestrator) (operation : Store.Operation β) (share : Share)
    (met : Scene) (learnt : Share) : Prop :=
  match operation with
  | .findWorkflow _ | .groupReports _ => learnt = share
  | .findTask _ =>
    learnt = share ∨ met.task.bothTerminal = false ∧ learnt = { share with owes := false }
  | .advance id _ => id = met.workflow.id ∧ learnt = share
  | .finish id status =>
    id = met.workflow.id ∧ met.workflow.progress = met.workflow.steps ∧
      (status = .complete ∧ met.task.bothSucceeded = true ∧
          (met.Sunk → met.task.mergeClaimed = true) ∨
        status = .aborted ∧ met.task.bothTerminal = true ∧ met.task.bothSucceeded = false) ∧
      learnt = { share with owes := false }
  | .moveSa id expected next =>
    id = met.task.id ∧ expected = .running ∧ next.status.isTerminal = true ∧
      (next.status = .success → ∃ reports, met.Recorded next.resultIds reports ∧
        ∀ id ∈ reports.flatMap GroupReport.ids, id ∈ share.own) ∧
      learnt = if met.task.sa.status = .running then ⟨[], true⟩ else share
  | .moveMl id expected next =>
    id = met.task.id ∧ expected = .running ∧ next.status.isTerminal = true ∧
      (next.status = .success → ∃ report, next.rawResult = some report ∧ report.Probable) ∧
      learnt = if met.task.ml.status = .running then { share with owes := true } else share
  | .claimMerge id summary _ =>
    id = met.task.id ∧
      (met.task.bothSucceeded = true →
        o.mergeRecords met.task met.results = .ok summary.results) ∧ learnt = share
  | .insertGroups _ reports =>
    (∀ id ∈ reports.flatMap GroupReport.ids, id ∈ share.own) ∧
      (∀ report ∈ reports, report.group.findingIds = report.findings.map Finding.id) ∧
      learnt = share
  | .deleteGroups _ groupIds => (∀ id ∈ groupIds, id ∈ share.own) ∧ learnt = share
  | _ => False

def merging (o : Orchestrator) (origin : Scene) : Accord Share where
  rely share since met := Lawful o origin met ∧ Later share.own since met
  grants call share met learnt _ :=
    match call with
    | .clock => learnt = share
    | .reserve count => learnt = { share with own := numbered met.nextNumber count }
    | .store operation => Granted o operation share met learnt
    | _ => False

variable {o : Orchestrator} {origin scene since met reached : Scene}

theorem Later.refl (own : List Uuid) (scene : Scene) : Later own scene scene where
  sa _ := rfl
  ml _ := rfl
  results _ := rfl
  claimed h := h
  progress := Nat.le_refl _
  same id _ := .refl scene id

theorem isTerminal_of_success {status : RunStatus} (h : status = .success) :
    status.isTerminal = true := by
  rw [h]
  rfl

theorem Later.trans {own : List Uuid} (hfirst : Later own since met)
    (hsecond : Later own met reached) : Later own since reached where
  sa h := by
    have hmet := hfirst.sa h
    rw [hsecond.sa (hmet ▸ h), hmet]
  ml h := by
    have hmet := hfirst.ml h
    rw [hsecond.ml (hmet ▸ h), hmet]
  results h := by
    have hmet := hfirst.sa (isTerminal_of_success h)
    rw [hsecond.results (hmet ▸ h), hfirst.results h]
  claimed h := hsecond.claimed (hfirst.claimed h)
  progress := Nat.le_trans hfirst.progress hsecond.progress
  same id hid := (hfirst.same id hid).trans (hsecond.same id hid)

/-! ### One call -/

/-- What is known of a share: its numbers are taken, its groups name only findings of the same
share, and nothing that has been recorded is in it. -/
structure Owned (scene : Scene) (share : Share) : Prop where
  taken : ∀ id ∈ share.own, scene.Taken id
  closed : ∀ group ∈ scene.groups, group.id ∈ share.own → ∀ id ∈ group.findingIds, id ∈ share.own
  spared : scene.task.sa.status = .success →
    ∀ id ∈ scene.results.flatMap GroupReport.ids, id ∉ share.own

/-- What a granted call may do: it keeps the common state lawful, stores and deletes under own
identifiers only, and leaves a settlement owing where it makes one due. -/
structure Step (o : Orchestrator) (origin : Scene) (share : Share) (met : Scene) (learnt : Share)
    (reached : Scene) : Prop where
  lawful : Lawful o origin reached
  later : ∀ own, (∀ id ∈ own, id ∉ share.own) → Later own met reached
  groups : ∀ group ∈ reached.groups, group ∈ met.groups ∨
    group.id ∈ share.own ∧ ∀ id ∈ group.findingIds, id ∈ share.own
  number : met.nextNumber ≤ reached.nextNumber
  own : learnt.own = share.own ∨ learnt.own = [] ∨ reached.groups = met.groups ∧
    ∀ id ∈ learnt.own, ∃ n, met.nextNumber ≤ n ∧ n < reached.nextNumber ∧ id = Uuid.generated n
  recorded : reached.task.sa.status = .success → met.task.sa.status = .success ∨
    learnt.own = [] ∧ ∀ id ∈ reached.results.flatMap GroupReport.ids, id ∈ share.own
  debt : reached.task.bothTerminal = true → reached.workflow.status = .running →
    learnt.owes = true ∨ met.task.bothTerminal = true ∧ met.workflow.status = .running ∧
      learnt.owes = share.owes

variable {share learnt : Share}

/-- A call that changes nothing may forget a settlement only where none is due. -/
theorem step_stay (hmet : Lawful o origin met) (hown : learnt.own = share.own)
    (hdebt : met.task.bothTerminal = true → met.workflow.status = .running →
      learnt.owes = share.owes) : Step o origin share met learnt met where
  lawful := hmet
  later own _ := .refl own met
  groups _ member := Or.inl member
  number := Nat.le_refl _
  own := Or.inl hown
  recorded := Or.inl
  debt hdue hrunning := Or.inr ⟨hdue, hrunning, hdebt hdue hrunning⟩

/-- What is to be merged stays the same while nothing of it is touched. -/
theorem results_kept (hmet : Lawful o origin met) (htask : reached.task.id = met.task.id)
    (hsa : reached.task.sa = met.task.sa)
    (hsame : met.task.sa.status = .success →
      ∀ id ∈ met.results.flatMap GroupReport.ids, met.SameAt reached id)
    (h : met.task.sa.status = .success) : reached.results = met.results := by
  have hkept := (hmet.recorded h).1.kept htask (hsame h)
  exact (hsa ▸ hkept).results_eq

theorem recorded_kept (hmet : Lawful o origin met) (htask : reached.task.id = met.task.id)
    (hsa : reached.task.sa = met.task.sa)
    (hsame : met.task.sa.status = .success →
      ∀ id ∈ met.results.flatMap GroupReport.ids, met.SameAt reached id)
    (hnumber : met.nextNumber ≤ reached.nextNumber) (h : reached.task.sa.status = .success) :
    reached.Recorded reached.task.sa.resultIds reached.results ∧
      ∀ id ∈ reached.results.flatMap GroupReport.ids, reached.Taken id := by
  rw [hsa] at h ⊢
  obtain ⟨hrecorded, htaken⟩ := hmet.recorded h
  rw [results_kept hmet htask hsa hsame h]
  refine ⟨hrecorded.kept htask (hsame h), ?_⟩
  intro id member
  obtain ⟨n, hn, hid⟩ := htaken id member
  exact ⟨n, Nat.lt_of_lt_of_le hn hnumber, hid⟩

/-- What a call leaves alone that stores no groups and ends no static analysis. -/
structure Same (met reached : Scene) : Prop where
  groups : reached.groups = met.groups
  findings : reached.findings = met.findings
  number : reached.nextNumber = met.nextNumber
  id : reached.task.id = met.task.id
  sa : reached.task.sa = met.task.sa

theorem same_workflow (met : Scene) (workflow : Workflow) : Same met { met with workflow } :=
  ⟨rfl, rfl, rfl, rfl, rfl⟩

theorem same_task (met : Scene) {task : Task} (hid : task.id = met.task.id)
    (hsa : task.sa = met.task.sa) : Same met { met with task } :=
  ⟨rfl, rfl, rfl, hid, hsa⟩

theorem Same.at (h : Same met reached) (id : Uuid) : met.SameAt reached id := by
  unfold Scene.SameAt
  rw [h.groups, h.findings]
  exact ⟨rfl, rfl⟩

theorem Same.recorded (h : Same met reached) (hmet : Lawful o origin met)
    (hok : reached.task.sa.status = .success) :
    reached.Recorded reached.task.sa.resultIds reached.results ∧
      ∀ id ∈ reached.results.flatMap GroupReport.ids, reached.Taken id :=
  recorded_kept hmet h.id h.sa (fun _ id _ => h.at id) (Nat.le_of_eq h.number.symm) hok

/-- A call that leaves all these alone is a step if its effect on the rest is one. -/
theorem Same.step (h : Same met reached) (hlawful : Lawful o origin reached)
    (hml : met.task.ml.status.isTerminal = true → reached.task.ml = met.task.ml)
    (hclaimed : met.task.mergeClaimed = true → reached.task.mergeClaimed = true)
    (hprogress : met.workflow.progress ≤ reached.workflow.progress)
    (hown : learnt.own = share.own)
    (hdebt : reached.task.bothTerminal = true → reached.workflow.status = .running →
      learnt.owes = true ∨ met.task.bothTerminal = true ∧ met.workflow.status = .running ∧
        learnt.owes = share.owes) : Step o origin share met learnt reached where
  lawful := hlawful
  later own _ :=
    { sa := fun _ => h.sa
      ml := hml
      results := by
        intro _
        unfold Scene.results Scene.reports
        rw [h.groups, h.findings, h.id, h.sa]
      claimed := hclaimed
      progress := hprogress
      same := fun id _ => h.at id }
  groups group member := Or.inl (h.groups ▸ member)
  number := Nat.le_of_eq h.number.symm
  own := Or.inl hown
  recorded hok := Or.inl (h.sa ▸ hok)
  debt := hdebt

theorem step_reserve (hmet : Lawful o origin met) (count : Nat) :
    Step o origin share met { share with own := numbered met.nextNumber count }
      { met with nextNumber := met.nextNumber + count } where
  lawful :=
    { hmet with
      recorded := recorded_kept hmet rfl rfl (fun _ _ _ => ⟨rfl, rfl⟩) (Nat.le_add_right _ _)
      numbered := by
        intro group member n hn
        exact hmet.numbered group member n (Nat.le_trans (Nat.le_add_right _ _) hn) }
  later own _ := ⟨fun _ => rfl, fun _ => rfl, fun _ => rfl, fun h => h, Nat.le_refl _,
    fun _ _ => ⟨rfl, rfl⟩⟩
  groups _ member := Or.inl member
  number := Nat.le_add_right _ _
  own := by
    refine Or.inr (Or.inr ⟨rfl, ?_⟩)
    intro id member
    exact mem_numbered.mp member
  recorded := Or.inl
  debt hdue hrunning := Or.inr ⟨hdue, hrunning, rfl⟩

/-- One more stage may be counted, while the workflow runs. -/
theorem step_advance (hmet : Lawful o origin met) (moment : Timestamp) :
    Step o origin share met share
      { met with workflow := (met.workflow.advanced? moment).getD met.workflow } := by
  cases hnext : met.workflow.advanced? moment with
  | none => exact step_stay hmet rfl fun _ _ => rfl
  | some next =>
    obtain ⟨hrunning, hleft, rfl⟩ := Workflow.advanced?_eq_some hnext
    have hstatus := Workflow.isRunning_iff.mp hrunning
    simp only [Workflow.isFullyProgressed, decide_eq_false_iff_not, Nat.not_le] at hleft
    apply (same_workflow met _).step
    · exact
        { hmet with
          upper := hleft
          lower := Nat.le_succ_of_le hmet.lower
          ended := fun hended => absurd hstatus hended
          recorded := (same_workflow met _).recorded hmet }
    · exact fun _ => rfl
    · exact fun hclaimed => hclaimed
    · exact Nat.le_succ _
    · rfl
    · exact fun hdue hrunning => Or.inr ⟨hdue, hrunning, rfl⟩

/-- The workflow may be ended as the engine runs say, once its stages are done. -/
theorem step_finish (hmet : Lawful o origin met) {status : Workflow.Status} (now : Timestamp)
    (hprogress : met.workflow.progress = met.workflow.steps)
    (hverdict : status = .complete ∧ met.task.bothSucceeded = true ∧
        (met.Sunk → met.task.mergeClaimed = true) ∨
      status = .aborted ∧ met.task.bothTerminal = true ∧ met.task.bothSucceeded = false) :
    Step o origin share met { share with owes := false }
      { met with workflow := (met.workflow.finished? status now).getD met.workflow } := by
  have hfinal : status ≠ .running := by
    rcases hverdict with ⟨rfl, _⟩ | ⟨rfl, _⟩
    · nofun
    · nofun
  cases hnext : met.workflow.finished? status now with
  | none =>
    have hstill : met.workflow.status ≠ .running := by
      intro hrunning
      unfold Workflow.finished? at hnext
      rw [hrunning] at hnext
      rcases hverdict with ⟨rfl, _⟩ | ⟨rfl, _⟩
      · cases hnext
      · cases hnext
    exact step_stay hmet rfl fun _ hrunning => absurd hrunning hstill
  | some next =>
    obtain ⟨_, rfl⟩ := Workflow.finished?_eq_some hnext
    apply (same_workflow met _).step
    · exact
        { hmet with
          ended := fun _ => hprogress
          recorded := (same_workflow met _).recorded hmet
          complete := by
            intro hcomplete
            rcases hverdict with ⟨_, h⟩ | ⟨rfl, _⟩
            · exact h
            · cases hcomplete
          aborted := by
            intro haborted
            rcases hverdict with ⟨rfl, _⟩ | ⟨_, h⟩
            · cases haborted
            · exact h }
    · exact fun _ => rfl
    · exact fun hclaimed => hclaimed
    · exact Nat.le_refl _
    · rfl
    · exact fun _ hrunning => absurd hrunning hfinal

theorem not_pending_of_terminal {status : RunStatus} (h : status.isTerminal = true) :
    status ≠ .pending := by
  rintro rfl
  cases h

theorem bothSucceeded_iff {task : Task} :
    task.bothSucceeded = true ↔ task.sa.status = .success ∧ task.ml.status = .success := by
  simp [Task.bothSucceeded]

theorem not_bothSucceeded_of_sa {task : Task} (h : task.sa.status = .running) :
    task.bothSucceeded = false ∧ task.bothTerminal = false := by
  simp [Task.bothSucceeded, Task.bothTerminal, h, RunStatus.isTerminal]

theorem not_bothSucceeded_of_ml {task : Task} (h : task.ml.status = .running) :
    task.bothSucceeded = false ∧ task.bothTerminal = false := by
  simp [Task.bothSucceeded, Task.bothTerminal, h, RunStatus.isTerminal]

/-- While an engine is awaited, nothing has been claimed, and the workflow has not ended. -/
theorem Lawful.open (hmet : Lawful o origin met)
    (hawaited : met.task.bothSucceeded = false ∧ met.task.bothTerminal = false) :
    met.task.mergeClaimed = false ∧ met.workflow.status ≠ .complete ∧
      met.workflow.status ≠ .aborted := by
  refine ⟨?_, ?_, ?_⟩
  · rw [Bool.eq_false_iff]
    intro hclaimed
    rw [(hmet.claimed hclaimed).1] at hawaited
    cases hawaited.1
  · intro hcomplete
    rw [(hmet.complete hcomplete).1] at hawaited
    cases hawaited.1
  · intro haborted
    rw [(hmet.aborted haborted).1] at hawaited
    cases hawaited.2

/-- Where a task comes to record reports that are stored, they are what is to be merged. -/
theorem recorded_moved (howned : Owned met share) (task : Task) (hid : task.id = met.task.id)
    (hstored : ∃ reports, met.Recorded task.sa.resultIds reports ∧
      ∀ id ∈ reports.flatMap GroupReport.ids, id ∈ share.own) :
    Scene.Recorded { met with task } task.sa.resultIds (Scene.results { met with task }) ∧
      (∀ id ∈ (Scene.results { met with task }).flatMap GroupReport.ids, met.Taken id) ∧
        ∀ id ∈ (Scene.results { met with task }).flatMap GroupReport.ids, id ∈ share.own := by
  obtain ⟨reports, hrecorded, hown⟩ := hstored
  have hkept : Scene.Recorded { met with task } task.sa.resultIds reports :=
    hrecorded.kept hid fun _ _ => ⟨rfl, rfl⟩
  rw [hkept.results_eq]
  exact ⟨hkept, fun id member => howned.taken id (hown id member), hown⟩

/-- The static analysis may be ended by the delivery that has stored what it recorded. -/
theorem step_moveSa (hmet : Lawful o origin met) (howned : Owned met share) {next : SaRun}
    (now : Timestamp) (hterminal : next.status.isTerminal = true)
    (hsuccess : next.status = .success → ∃ reports, met.Recorded next.resultIds reports ∧
      ∀ id ∈ reports.flatMap GroupReport.ids, id ∈ share.own) :
    Step o origin share met (if met.task.sa.status = .running then ⟨[], true⟩ else share)
      { met with task := (met.task.withSa? .running next now).getD met.task } := by
  cases hnext : met.task.withSa? .running next now with
  | none =>
    have hother : met.task.sa.status ≠ .running := by
      intro hrunning
      simp [Task.withSa?, hrunning] at hnext
    rw [if_neg hother]
    exact step_stay hmet rfl fun _ _ => rfl
  | some changed =>
    obtain ⟨hrunning, rfl⟩ := Task.withSa?_eq_some hnext
    obtain ⟨hclaimed, hcomplete, haborted⟩ := hmet.open (not_bothSucceeded_of_sa hrunning)
    have hnew := fun hok : next.status = .success => recorded_moved howned { met.task with
      sa := next, weaknessCount := next.weaknessCount, updatedAt := now } rfl (hsuccess hok)
    rw [if_pos hrunning]
    constructor
    · exact
        { hmet with
          sa := not_pending_of_terminal hterminal
          recorded := fun hok => ⟨(hnew hok).1, (hnew hok).2.1⟩
          claimed := fun h => absurd (hclaimed.symm.trans h) Bool.false_ne_true
          complete := fun h => absurd h hcomplete
          aborted := fun h => absurd h haborted }
    · intro own _
      exact
        { sa := by
            intro hended
            rw [hrunning] at hended
            cases hended
          ml := fun _ => rfl
          results := by
            intro hended
            rw [hrunning] at hended
            cases hended
          claimed := fun h => h
          progress := Nat.le_refl _
          same := fun _ _ => ⟨rfl, rfl⟩ }
    · exact fun _ member => Or.inl member
    · exact Nat.le_refl _
    · exact Or.inr (Or.inl rfl)
    · exact fun hok => Or.inr ⟨rfl, (hnew hok).2.2⟩
    · exact fun _ _ => Or.inl rfl

/-- The other engine run may be ended by the delivery that brings its answer. -/
theorem step_moveMl (hmet : Lawful o origin met) {next : MlRun} (now : Timestamp)
    (hterminal : next.status.isTerminal = true)
    (hsuccess : next.status = .success →
      ∃ report, next.rawResult = some report ∧ report.Probable) :
    Step o origin share met
      (if met.task.ml.status = .running then { share with owes := true } else share)
      { met with task := (met.task.withMl? .running next now).getD met.task } := by
  cases hnext : met.task.withMl? .running next now with
  | none =>
    have hother : met.task.ml.status ≠ .running := by
      intro hrunning
      simp [Task.withMl?, hrunning] at hnext
    rw [if_neg hother]
    exact step_stay hmet rfl fun _ _ => rfl
  | some changed =>
    obtain ⟨hrunning, rfl⟩ := Task.withMl?_eq_some hnext
    obtain ⟨hclaimed, hcomplete, haborted⟩ := hmet.open (not_bothSucceeded_of_ml hrunning)
    rw [if_pos hrunning]
    have hsame : Same met { met with task := { met.task with ml := next, updatedAt := now } } :=
      same_task met rfl rfl
    apply hsame.step
    · exact
        { hmet with
          ml := not_pending_of_terminal hterminal
          recorded := hsame.recorded hmet
          probable := hsuccess
          claimed := fun h => absurd (hclaimed.symm.trans h) Bool.false_ne_true
          complete := fun h => absurd h hcomplete
          aborted := fun h => absurd h haborted }
    · intro hended
      rw [hrunning] at hended
      cases hended
    · exact fun h => h
    · exact Nat.le_refl _
    · rfl
    · exact fun _ _ => Or.inl rfl

/-- The merge may be claimed with the summary of what is to be merged. -/
theorem step_claimMerge (hmet : Lawful o origin met) {summary : Summary} (count : Nat)
    (now : Timestamp) (hsummary : met.task.bothSucceeded = true →
      o.mergeRecords met.task met.results = .ok summary.results) :
    Step o origin share met share
      { met with task := (met.task.withClaim? summary count now).getD met.task } := by
  cases hnext : met.task.withClaim? summary count now with
  | none => exact step_stay hmet rfl fun _ _ => rfl
  | some changed =>
    obtain ⟨_, hboth, rfl⟩ := Task.withClaim?_eq_some hnext
    have hsame : Same met { met with task :=
        { met.task.withSummary summary count now with mergeClaimed := true } } :=
      same_task met rfl rfl
    apply hsame.step
    · exact
        { hmet with
          recorded := hsame.recorded hmet
          claimed := fun _ => ⟨hboth, hsummary hboth⟩
          unclaimed := nofun
          complete := fun h => ⟨hboth, fun _ => rfl⟩ }
    · exact fun _ => rfl
    · exact fun _ => rfl
    · exact Nat.le_refl _
    · rfl
    · exact fun hdue hrunning => Or.inr ⟨hdue, hrunning, rfl⟩

/-- Groups may be stored and taken away under own identifiers. -/
theorem step_groups (hmet : Lawful o origin met) (howned : Owned met share)
    (groups : List FindingGroup) (findings : Table Finding)
    (hsame : ∀ id, id ∉ share.own → met.SameAt { met with groups, findings } id)
    (hgroups : ∀ group ∈ groups, group ∈ met.groups ∨
      group.id ∈ share.own ∧ ∀ id ∈ group.findingIds, id ∈ share.own) :
    Step o origin share met share { met with groups, findings } := by
  have hkept : met.task.sa.status = .success →
      ∀ id ∈ met.results.flatMap GroupReport.ids, met.SameAt { met with groups, findings } id :=
    fun hok id member => hsame id (howned.spared hok id member)
  have hresults : met.task.sa.status = .success →
      Scene.results { met with groups, findings } = met.results :=
    results_kept hmet rfl rfl hkept
  constructor
  · exact
      { hmet with
        recorded := recorded_kept hmet rfl rfl hkept (Nat.le_refl _)
        claimed := by
          intro hclaimed
          obtain ⟨hboth, hrecords⟩ := hmet.claimed hclaimed
          rw [hresults (bothSucceeded_iff.mp hboth).1]
          exact ⟨hboth, hrecords⟩
        complete := by
          intro hcomplete
          obtain ⟨hboth, hsunk⟩ := hmet.complete hcomplete
          unfold Scene.Sunk at hsunk ⊢
          rw [hresults (bothSucceeded_iff.mp hboth).1]
          exact ⟨hboth, hsunk⟩
        numbered := by
          intro group member n hn
          rcases hgroups group member with hold | ⟨hown, _⟩
          · exact hmet.numbered group hold n hn
          · obtain ⟨m, hm, hid⟩ := howned.taken _ hown
            rw [hid]
            intro heq
            have hmn := Uuid.generated_injective heq
            have hbound : met.nextNumber ≤ n := hn
            omega }
  · intro own hown
    exact ⟨fun _ => rfl, fun _ => rfl, hresults, fun h => h, Nat.le_refl _,
      fun id hid => hsame id (hown id hid)⟩
  · exact hgroups
  · exact Nat.le_refl _
  · exact Or.inl rfl
  · exact Or.inl
  · exact fun hdue hrunning => Or.inr ⟨hdue, hrunning, rfl⟩

/-- Every granted call of the store is a step. -/
theorem step_store {β : Type} {operation : Store.Operation β} (hmet : Lawful o origin met)
    (howned : Owned met share) (hgrants : Granted o operation share met learnt) (now : Timestamp) :
    Step o origin share met learnt (met.after now operation) := by
  unfold Granted at hgrants
  cases operation with
  | findWorkflow id | groupReports id =>
    cases hgrants
    exact step_stay hmet rfl fun _ _ => rfl
  | findTask id =>
    rcases hgrants with rfl | ⟨hawaited, rfl⟩
    · exact step_stay hmet rfl fun _ _ => rfl
    · exact step_stay hmet rfl fun hdue => absurd (hawaited.symm.trans hdue) Bool.false_ne_true
  | advance id moment =>
    obtain ⟨rfl, rfl⟩ := hgrants
    rw [Scene.after_workflowChange rfl]
    exact step_advance hmet moment
  | finish id status =>
    obtain ⟨rfl, hprogress, hverdict, rfl⟩ := hgrants
    rw [Scene.after_workflowChange rfl]
    exact step_finish hmet now hprogress hverdict
  | moveSa id expected next =>
    obtain ⟨rfl, rfl, hterminal, hsuccess, rfl⟩ := hgrants
    rw [Scene.after_taskChange rfl]
    exact step_moveSa hmet howned now hterminal hsuccess
  | moveMl id expected next =>
    obtain ⟨rfl, rfl, hterminal, hsuccess, rfl⟩ := hgrants
    rw [Scene.after_taskChange rfl]
    exact step_moveMl hmet now hterminal hsuccess
  | claimMerge id summary count =>
    obtain ⟨rfl, hsummary, rfl⟩ := hgrants
    rw [Scene.after_taskChange rfl]
    exact step_claimMerge hmet count now hsummary
  | insertGroups taskId reports =>
    obtain ⟨hown, hnames, rfl⟩ := hgrants
    apply step_groups hmet howned
    · intro id hid
      have hsame : met.SameAt (met.after now (.insertGroups taskId reports)) id :=
        Scene.sameAt_insertGroups fun member => hid (hown id member)
      exact hsame
    · intro group member
      change group ∈ (if Store.ownReports taskId reports = true then
        met.groups ++ reports.map GroupReport.group else met.groups) at member
      split at member
      · rcases List.mem_append.mp member with hold | hnew
        · exact Or.inl hold
        · obtain ⟨report, hreport, rfl⟩ := List.mem_map.mp hnew
          refine Or.inr ⟨hown _ (List.mem_flatMap.mpr ⟨report, hreport, List.mem_cons_self⟩), ?_⟩
          intro id hid
          rw [hnames report hreport] at hid
          exact hown id (List.mem_flatMap.mpr ⟨report, hreport, List.mem_cons_of_mem _ hid⟩)
      · exact Or.inl member
  | deleteGroups taskId groupIds =>
    obtain ⟨hown, rfl⟩ := hgrants
    apply step_groups hmet howned
    · intro id hid
      have hsame : met.SameAt (met.after now (.deleteGroups taskId groupIds)) id :=
        Scene.sameAt_deleteGroups hown howned.closed hid
      exact hsame
    · intro group member
      exact Or.inl (List.mem_filter.mp member).1
  | _ => exact hgrants.elim

/-- Every granted call is a step. -/
theorem step_call {β : Type} {call : Call β} {env : Environment} {answer : β}
    (hmet : Lawful o origin met) (howned : Owned met share)
    (hmoves : call.Moves env met answer reached)
    (hgrants : (merging o origin).grants call share met learnt reached) :
    Step o origin share met learnt reached := by
  cases call with
  | clock =>
    cases hgrants
    cases hmoves
    exact step_stay hmet rfl fun _ _ => rfl
  | reserve count =>
    cases hgrants
    obtain ⟨_, rfl⟩ := hmoves
    exact step_reserve hmet count
  | store operation =>
    obtain ⟨_, rfl⟩ := hmoves
    exact step_store hmet howned hgrants env.now
  | publish | blobExists | blobUrl => exact hgrants.elim

/-! ### All deliveries -/

/-- What the deliveries for one task have in common: the lawful state, identifiers that are
each owned by one delivery at most, a settlement that somebody owes as long as one is due, and
as many claims won as the task says. -/
structure Pooled (o : Orchestrator) (origin : Scene) (history : List Event) (scene : Scene)
    (shares : List Share) : Prop where
  lawful : Lawful o origin scene
  owned : ∀ share ∈ shares, Owned scene share
  apart : ∀ (i j : Nat) (first second : Share), i ≠ j → shares[i]? = some first →
    shares[j]? = some second → ∀ id ∈ first.own, id ∉ second.own
  debt : scene.task.bothTerminal = true → scene.workflow.status = .running →
    ∃ share ∈ shares, share.owes = true
  claims : history.countP (Event.claims origin.task.id) = scene.task.mergeClaimed.toNat

variable {history : List Event} {shares : List Share} {index : Nat}

/-- What one delivery does leaves the others what they own. -/
theorem Owned.spare {other : Share} (hother : Owned met other)
    (hstep : Step o origin share met learnt reached) (hapart : ∀ id ∈ share.own, id ∉ other.own) :
    Owned reached other where
  taken := by
    intro id hid
    obtain ⟨n, hn, hnumber⟩ := hother.taken id hid
    exact ⟨n, Nat.lt_of_lt_of_le hn hstep.number, hnumber⟩
  closed := by
    intro group member hid
    rcases hstep.groups group member with hold | ⟨hown, _⟩
    · exact hother.closed group hold hid
    · exact absurd hid (hapart _ hown)
  spared := by
    intro hok id member
    rcases hstep.recorded hok with hold | ⟨_, hown⟩
    · rw [(hstep.later [] (by simp)).results hold] at member
      exact hother.spared hold id member
    · exact hapart id (hown id member)

/-- What a delivery does leaves it with what it then owns. -/
theorem Owned.learn (howned : Owned met share) (hmet : Lawful o origin met)
    (hstep : Step o origin share met learnt reached) : Owned reached learnt := by
  rcases hstep.own with hown | hnone | ⟨hgroups, hnew⟩
  · constructor
    · intro id hid
      obtain ⟨n, hn, hnumber⟩ := howned.taken id (hown ▸ hid)
      exact ⟨n, Nat.lt_of_lt_of_le hn hstep.number, hnumber⟩
    · intro group member hid
      rw [hown] at hid ⊢
      rcases hstep.groups group member with hold | ⟨_, hnames⟩
      · exact howned.closed group hold hid
      · exact hnames
    · intro hok id member hid
      rcases hstep.recorded hok with hold | ⟨hnone, _⟩
      · rw [(hstep.later [] (by simp)).results hold] at member
        exact howned.spared hold id member (hown ▸ hid)
      · rw [hnone] at hid
        cases hid
  · constructor
    · simp [hnone]
    · simp [hnone]
    · simp [hnone]
  · constructor
    · intro id hid
      obtain ⟨n, _, hn, hnumber⟩ := hnew id hid
      exact ⟨n, hn, hnumber⟩
    · intro group member hid
      obtain ⟨n, hn, _, hnumber⟩ := hnew _ hid
      rw [hgroups] at member
      exact absurd hnumber (hmet.numbered group member n hn)
    · intro hok id member hid
      obtain ⟨n, hn, _, rfl⟩ := hnew id hid
      rcases hstep.recorded hok with hold | ⟨hnone, _⟩
      · rw [(hstep.later [] (by simp)).results hold] at member
        obtain ⟨m, hm, heq⟩ := (hmet.recorded hold).2 _ member
        have hsame := Uuid.generated_injective heq
        omega
      · rw [hnone] at hid
        cases hid

/-- A delivery never comes to own what another one owns. -/
theorem Step.apart {other : Share} (hstep : Step o origin share met learnt reached)
    (hother : Owned met other) (hapart : ∀ id ∈ share.own, id ∉ other.own) :
    ∀ id ∈ learnt.own, id ∉ other.own := by
  intro id hid
  rcases hstep.own with hown | hnone | ⟨_, hnew⟩
  · exact hapart id (hown ▸ hid)
  · rw [hnone] at hid
    cases hid
  · obtain ⟨n, hn, _, rfl⟩ := hnew id hid
    intro howned
    obtain ⟨m, hm, heq⟩ := hother.taken _ howned
    have hsame := Uuid.generated_injective heq
    omega

theorem Pooled.step {β : Type} {call : Call β} {env : Environment} {answer : β}
    (hpool : Pooled o origin history met shares) (hshare : shares[index]? = some share)
    (hmoves : call.Moves env met answer reached)
    (hgrants : (merging o origin).grants call share met learnt reached) :
    Pooled o origin (history ++ [⟨call, answer⟩]) reached (shares.set index learnt) := by
  have hmet := hpool.lawful
  have hbound := (List.getElem?_eq_some_iff.mp hshare).1
  have howned := hpool.owned share (List.mem_of_getElem? hshare)
  have hstep := step_call hmet howned hmoves hgrants
  constructor
  · exact hstep.lawful
  · intro other member
    obtain ⟨position, hposition⟩ := List.mem_iff_getElem?.mp member
    rcases getElem?_set_cases hposition with ⟨_, rfl⟩ | ⟨hne, hother⟩
    · exact howned.learn hmet hstep
    · exact (hpool.owned other (List.mem_of_getElem? hother)).spare hstep
        (hpool.apart index position share other (Ne.symm hne) hshare hother)
  · intro i j first second hne hfirst hsecond id hid
    rcases getElem?_set_cases hfirst with ⟨rfl, rfl⟩ | ⟨_, hi⟩
    · rcases getElem?_set_cases hsecond with ⟨rfl, _⟩ | ⟨_, hj⟩
      · exact absurd rfl hne
      · exact hstep.apart (hpool.owned second (List.mem_of_getElem? hj))
          (hpool.apart i j share second hne hshare hj) id hid
    · rcases getElem?_set_cases hsecond with ⟨rfl, rfl⟩ | ⟨_, hj⟩
      · intro hboth
        exact hstep.apart (hpool.owned first (List.mem_of_getElem? hi))
          (hpool.apart j i share first (Ne.symm hne) hshare hi) id hboth hid
      · exact hpool.apart i j first second hne hi hj id hid
  · intro hdue hrunning
    rcases hstep.debt hdue hrunning with howes | ⟨hbefore, hstill, howes⟩
    · exact ⟨learnt, List.mem_set hbound learnt, howes⟩
    · obtain ⟨debtor, hdebtor, hdebt⟩ := hpool.debt hbefore hstill
      obtain ⟨position, hposition⟩ := List.mem_iff_getElem?.mp hdebtor
      by_cases hsame : position = index
      · subst hsame
        cases hshare.symm.trans hposition
        exact ⟨learnt, List.mem_set hbound learnt, howes.trans hdebt⟩
      · refine ⟨debtor, List.mem_iff_getElem?.mpr ⟨position, ?_⟩, hdebt⟩
        rw [List.getElem?_set_ne (Ne.symm hsame)]
        exact hposition
  · rw [List.countP_append, List.countP_singleton, hpool.claims, ← hmet.id]
    exact hmoves.claims.symm

/-- The accord suffices for deliveries that have these in common. -/
theorem merging_upholds : (merging o origin).Upholds (Pooled o origin) where
  starts := fun hpool _ => ⟨hpool.lawful, .refl _ _⟩
  steps := Pooled.step
  spares := by
    intro β call env answer history met reached shares index other share learnt rival since hpool
      hshare hmoves hgrants hne hrival hrely
    have hstep := step_call hpool.lawful (hpool.owned share (List.mem_of_getElem? hshare)) hmoves
      hgrants
    refine ⟨hstep.lawful, hrely.2.trans (hstep.later rival.own ?_)⟩
    exact hpool.apart other index rival share hne hrival hshare

end Orchestrator

end ScanFlow
