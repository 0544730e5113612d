import ScanFlow.Proofs.Program.Cut
import ScanFlow.Proofs.Race.MergeOnce
import ScanFlow.Proofs.Recovery.Outline

/-!
Answers of the engines that are cut and delivered again.

A delivery that has not yet ended the run of its engine has at most stored groups that nobody
refers to, and a second delivery starts over. Once the run has ended, every call that is left
brings the workflow nearer to one and the same outline: the stage is counted, the results are
merged, the workflow is ended, each at most once. A second delivery finds the run ended,
settles the workflow again, and arrives at that outline too.
-/

namespace ScanFlow

def Completion.run? : Completion → Task → Option RunStatus
  | .compile _, _ => none
  | .sa _, task => some task.sa.status
  | .ml _, task => some task.ml.status

namespace Orchestrator

open Program

variable {o : Orchestrator}

/-! ### Where a delivery can be cut -/

/-- The run has not been ended yet. What has been stored of the answer has numbers of its own,
and is not among the results of the task. -/
structure Unanswered (origin : Scene) (message : Completion) (scene : Scene) : Prop where
  workflow : scene.workflow = origin.workflow
  task : scene.task = origin.task
  numbered : ∀ group ∈ scene.groups, ∀ n, scene.nextNumber ≤ n → group.id ≠ Uuid.generated n
  results : (∃ answer, message = .ml answer) → scene.results = origin.results

structure Settles (o : Orchestrator) (origin : Scene) (message : Completion)
    (expected : Outline) (scene : Scene) : Prop where
  workflow : scene.workflow.id = origin.workflow.id
  task : scene.task.id = origin.task.id
  kind : scene.task.kind = origin.task.kind
  ended : (message.run? scene.task).any RunStatus.isTerminal = true
  progress : scene.workflow.status = .running →
    scene.workflow.progress + 1 = scene.workflow.steps ∨
      scene.workflow.progress = scene.workflow.steps
  outlook : o.outlook scene.workflow scene.task scene.results = expected

/-- Wherever the delivery is cut, it can be resumed. -/
def Resumes (o : Orchestrator) (origin : Scene) (message : Completion) (expected : Outline)
    (system : System) : Prop :=
  ∃ scene, system.Shows scene ∧
    (Unanswered origin message scene ∨ Settles o origin message expected scene)

variable {origin scene : Scene} {message : Completion} {expected : Outline} {system : System}

theorem Settles.resumes (hsettles : Settles o origin message expected scene)
    (hshows : system.Shows scene) : Resumes o origin message expected system :=
  ⟨scene, hshows, Or.inr hsettles⟩

theorem Settles.stepped (hsettles : Settles o origin message expected scene)
    (hrunning : scene.workflow.status = .running)
    (hless : scene.workflow.progress < scene.workflow.steps) (moment : Timestamp) :
    Settles o origin message expected
      { scene with workflow := scene.workflow.stepped moment } where
  workflow := hsettles.workflow
  task := hsettles.task
  kind := hsettles.kind
  ended := hsettles.ended
  progress := by
    intro _
    change scene.workflow.progress + 1 + 1 = scene.workflow.steps ∨
      scene.workflow.progress + 1 = scene.workflow.steps
    have hprogress := hsettles.progress hrunning
    omega
  outlook := (outlook_stepped hrunning hless moment).trans hsettles.outlook

theorem Settles.claimed {records : List MergeRecord} {next : Task} {now moment : Timestamp}
    (hsettles : Settles o origin message expected scene)
    (hrunning : scene.workflow.status = .running) (hkind : scene.task.kind = some .saMl)
    (hmerge : o.mergeRecords scene.task scene.results = .ok records)
    (hnext : scene.task.withClaim? (.ofResults records now) records.length moment = some next) :
    Settles o origin message expected { scene with task := next } := by
  have houtlook := outlook_claimed hrunning hkind hmerge hnext
  obtain ⟨_, _, rfl⟩ := Task.withClaim?_eq_some hnext
  exact
    { workflow := hsettles.workflow
      task := hsettles.task
      kind := hsettles.kind
      ended := by
        cases message with
        | compile _ => exact hsettles.ended
        | sa _ => exact hsettles.ended
        | ml _ => exact hsettles.ended
      progress := hsettles.progress
      outlook := houtlook.trans hsettles.outlook }

theorem Settles.finished {status : Workflow.Status}
    (hsettles : Settles o origin message expected scene)
    (hrunning : scene.workflow.status = .running)
    (hfull : scene.workflow.progress = scene.workflow.steps)
    (hmerged : o.merged scene.task scene.results = scene.task)
    (hverdict : verdict? scene.task = some status) (now : Timestamp) :
    Settles o origin message expected
      { scene with workflow := { scene.workflow with status, updatedAt := now } } ∧
        Outline.of { scene.workflow with status, updatedAt := now } scene.task = expected := by
  have hended : status ≠ .running := by
    rintro rfl
    exact verdict_not_running scene.task hverdict
  have houtline : Outline.of { scene.workflow with status, updatedAt := now } scene.task =
      expected := by
    rw [← hsettles.outlook, outlook_of_merged hrunning hfull hmerged, hverdict]
    rfl
  refine ⟨⟨hsettles.workflow, hsettles.task, hsettles.kind, hsettles.ended, ?_, ?_⟩, houtline⟩
  · exact fun hopen => absurd hopen hended
  · exact (outlook_of_ended hended).trans houtline

/-! ### Settling, call by call -/

theorem advance_through {post : Except ServiceError Workflow → System → Prop}
    (hshows : system.Shows scene) (hsettles : Settles o origin message expected scene)
    (hrunning : scene.workflow.status = .running)
    (h : ∀ (current : Workflow) (next : System),
      next.Shows { scene with workflow := current } →
        Settles o origin message expected { scene with workflow := current } →
          current.status = .running → current.progress = current.steps →
            current.id = scene.workflow.id → post (.ok current) next) :
    (advance scene.workflow).Through (Resumes o origin message expected) system post := by
  have hprogress := hsettles.progress hrunning
  unfold advance
  split
  · rename_i hstay
    have hfull : scene.workflow.progress = scene.workflow.steps := by
      have hfull : scene.workflow.steps ≤ scene.workflow.progress := by
        simpa [Workflow.isRunning, hrunning, Workflow.isFullyProgressed] using hstay
      omega
    exact h scene.workflow system hshows hsettles hrunning hfull rfl
  · rename_i hleft
    have hless : scene.workflow.progress < scene.workflow.steps := by
      simpa [Workflow.isRunning, hrunning, Workflow.isFullyProgressed] using hleft
    rw [through_bind]
    apply through_clock (hsettles.resumes hshows)
    intro moment
    change Through _ (_ >>= _) _ _
    rw [through_bind]
    apply through_advance hshows rfl
    intro next hnext _
    rw [Workflow.advanced?_eq_stepped hrunning hless] at hnext ⊢
    have hstepped := hsettles.stepped hrunning hless moment
    have hfull : scene.workflow.progress + 1 = scene.workflow.steps := by omega
    exact ⟨hstepped.resumes hnext, h _ next hnext hstepped hrunning hfull rfl⟩

theorem finish_through {status : Workflow.Status} (hshows : system.Shows scene)
    (hsettles : Settles o origin message expected scene)
    (hrunning : scene.workflow.status = .running)
    (hfull : scene.workflow.progress = scene.workflow.steps)
    (hmerged : o.merged scene.task scene.results = scene.task)
    (hverdict : verdict? scene.task = some status) :
    (Program.finish scene.workflow.id status).Through (Resumes o origin message expected) system
      fun outcome final =>
        outcome = .ok () ∧ final.outline? origin.workflow.id = some expected := by
  apply through_finish hshows rfl
  intro now next hnext _
  have hmay : scene.workflow.finished? status now =
      some { scene.workflow with status, updatedAt := now } := by
    cases status with
    | running => exact absurd hverdict (verdict_not_running scene.task)
    | complete | aborted => simp [Workflow.finished?, hrunning, Workflow.Status.canBecome]
  rw [hmay, Option.getD_some] at hnext
  obtain ⟨hfinished, houtline⟩ := hsettles.finished hrunning hfull hmerged hverdict now
  refine ⟨hfinished.resumes hnext, rfl, ?_⟩
  rw [← hsettles.workflow, ← houtline]
  exact hnext.outline

theorem loadReports_through {point : System → Prop}
    {post : Except ServiceError (List GroupReport) → System → Prop} (hshows : system.Shows scene)
    (hpoint : point system) (h : post (.ok scene.results) system) :
    (loadReports scene.task).Through point system post := by
  rw [loadReports, through_bind]
  refine through_read (fun _ _ => rfl) hpoint ?_
  intro _
  change post (.ok (pickReports (system.store.groupReports scene.task.id)
    scene.task.sa.resultIds)) system
  rw [groupReports_eq hshows]
  exact h

/-- The merge is claimed, or it cannot be made; in either case none is left. -/
theorem mergeOnce_through (hshows : system.Shows scene)
    (hsettles : Settles o origin message expected scene)
    (hrunning : scene.workflow.status = .running) (hkind : scene.task.kind = some .saMl)
    (hboth : scene.task.bothSucceeded = true) :
    (o.mergeOnce scene.task).Through (Resumes o origin message expected) system
      fun outcome final => (∃ claimed, outcome = .ok claimed) ∧
        ∃ next, final.Shows { scene with task := next } ∧
          Settles o origin message expected { scene with task := next } ∧
            o.merged next { scene with task := next : Scene }.results = next ∧
              verdict? next = some .complete := by
  have hverdict : verdict? scene.task = some .complete := by simp [verdict?, hkind, hboth]
  unfold mergeOnce
  split
  · rename_i hguard
    have hclaimed : scene.task.mergeClaimed = true := by simpa [hboth] using hguard
    exact ⟨⟨_, rfl⟩, scene.task, hshows, hsettles, merged_of_claimed hclaimed, hverdict⟩
  rename_i hguard
  have hunclaimed : scene.task.mergeClaimed = false := by simpa [hboth] using hguard
  have hpoint := hsettles.resumes hshows
  rw [through_bind]
  apply loadReports_through hshows hpoint
  unfold Rest
  dsimp only
  cases hmerge : o.mergeRecords scene.task scene.results with
  | error e =>
    refine ⟨⟨_, rfl⟩, scene.task, hshows, hsettles, ?_, hverdict⟩
    change o.merged scene.task scene.results = scene.task
    rw [merged, hkind, hmerge]
  | ok records =>
    change Through _ (_ >>= _) _ _
    rw [through_bind]
    apply through_clock hpoint
    intro moment
    apply through_claimMerge hshows rfl
    intro now final hfinal _
    obtain ⟨next, hnext⟩ : ∃ next, scene.task.withClaim? (.ofResults records moment)
        records.length now = some next := by
      simp [Task.withClaim?, hunclaimed, hboth]
    have hclaimed := hsettles.claimed hrunning hkind hmerge hnext
    have hsame := (Task.withClaim?_eq_some hnext).2.2
    rw [hnext, Option.getD_some] at hfinal
    refine ⟨hclaimed.resumes hfinal, ⟨_, rfl⟩, next, hfinal, hclaimed, ?_, ?_⟩
    · apply merged_of_claimed
      rw [hsame]
    · rw [hsame]
      exact hverdict

theorem conclude_through (hshows : system.Shows scene)
    (hsettles : Settles o origin message expected scene)
    (hrunning : scene.workflow.status = .running)
    (hfull : scene.workflow.progress = scene.workflow.steps) :
    (o.conclude scene.workflow scene.task).Through (Resumes o origin message expected) system
      fun outcome final =>
        outcome = .ok () ∧ final.outline? origin.workflow.id = some expected := by
  -- Without a verdict, the outline is what it was expected to become.
  have hopen : o.merged scene.task scene.results = scene.task → verdict? scene.task = none →
      system.outline? origin.workflow.id = some expected := by
    intro hmerged hverdict
    rw [← hsettles.workflow, hshows.outline, ← hsettles.outlook,
      outlook_of_merged hrunning hfull hmerged, hverdict, Option.getD_none, ← hrunning]
    rfl
  unfold conclude
  split
  · rename_i hkind
    exact finish_through hshows hsettles hrunning hfull (merged_of_kind (by simp [hkind]))
      (by simp [verdict?, hkind])
  · rename_i hkind
    exact finish_through hshows hsettles hrunning hfull (merged_of_kind (by simp [hkind]))
      (by simp [verdict?, hkind])
  · rename_i hkind
    split
    · rename_i hboth
      rw [through_bind]
      apply (mergeOnce_through hshows hsettles hrunning hkind hboth).mono fun _ => id
      rintro _ final ⟨⟨claimed, rfl⟩, next, hfinal, hnext, hmerged, hverdict⟩
      have hfinish := finish_through hfinal hnext hrunning hfull hmerged hverdict
      exact hfinish
    · rename_i hboth
      have hnot : scene.task.bothSucceeded = false := by simpa using hboth
      split
      · rename_i hterminal
        exact finish_through hshows hsettles hrunning hfull (merged_of_not_both hnot)
          (by simp [verdict?, hkind, hboth, hterminal])
      · rename_i hterminal
        exact ⟨rfl, hopen (merged_of_not_both hnot) (by simp [verdict?, hkind, hboth, hterminal])⟩
  · rename_i hkind
    exact ⟨rfl, hopen (merged_of_kind (by simp [hkind])) (by simp [verdict?, hkind])⟩

theorem settle_through (hshows : system.Shows scene)
    (hsettles : Settles o origin message expected scene)
    (hrunning : scene.workflow.status = .running) :
    (o.settle scene.workflow scene.task.id).Through (Resumes o origin message expected) system
      fun _ final => final.outline? origin.workflow.id = some expected := by
  unfold settle
  rw [through_bind]
  apply advance_through hshows hsettles hrunning
  intro current next hnext hcurrent hopen hfull _
  change Through _ (_ >>= _) _ _
  rw [through_bind]
  apply through_findTask hnext (hcurrent.resumes hnext) rfl
  unfold Rest
  dsimp only
  rw [through_bind]
  apply (conclude_through hnext hcurrent hopen hfull).mono fun _ => id
  rintro _ final ⟨rfl, houtline⟩
  unfold Rest
  dsimp only
  rw [if_pos (by simp [Workflow.isFullyProgressed, hfull])]
  exact houtline

/-- A delivery that finds the run ended arrives at the expected outline. -/
theorem resettle_through (hshows : system.Shows scene)
    (hsettles : Settles o origin message expected scene) :
    (o.resettle scene.workflow scene.task).Through (Resumes o origin message expected) system
      fun _ final => final.outline? origin.workflow.id = some expected := by
  unfold resettle
  split
  · rename_i hrunning
    exact settle_through hshows hsettles (Workflow.isRunning_iff.mp hrunning)
  · rename_i hended
    rw [Workflow.isRunning_iff] at hended
    change system.outline? origin.workflow.id = some expected
    rw [← hsettles.workflow, hshows.outline, ← hsettles.outlook, outlook_of_ended hended]

/-! ### Whole deliveries -/

theorem resolve_through {point : System → Prop}
    {post : Except ServiceError (Option (Workflow × Task)) → System → Prop}
    {workflowId taskId : Uuid} (hshows : system.Shows scene) (hpoint : point system)
    (hworkflow : workflowId = scene.workflow.id) (htask : taskId = scene.task.id)
    (h : post (.ok (some (scene.workflow, scene.task))) system) :
    (resolve workflowId taskId).Through point system post := by
  unfold resolve
  rw [through_bind]
  apply through_findWorkflow hshows hpoint hworkflow
  unfold Rest
  dsimp only
  rw [through_bind]
  apply through_findTask hshows hpoint htask
  change post (.ok (if scene.workflow.taskId = scene.task.id then _ else _)) system
  rw [if_pos hshows.linked]
  exact h

/-- Fresh groups are stored, and nobody refers to them yet. -/
theorem insertGroups_through {first : Nat} {rules : List (String × SaRuleResult)}
    {answer : SaFinished} {post : Except ServiceError Unit → System → Prop}
    (hshows : system.Shows scene) (hunanswered : Unanswered origin (.sa answer) scene)
    (hnext : scene.nextNumber = first + recordCount rules)
    (hnew : ∀ group ∈ scene.groups, ∀ n, first ≤ n → group.id ≠ Uuid.generated n)
    (h : ∀ (next : System) (met : Scene), next.Shows met →
      Unanswered origin (.sa answer) met →
        (∀ report ∈ storedReports origin.task.id first rules, met.Holds report) →
          post (.ok ()) next) :
    (storeOr (.insertGroups origin.task.id (storedReports origin.task.id first rules))).Through
      (Resumes o origin (.sa answer) expected) system post := by
  have hown : ∀ report ∈ storedReports origin.task.id first rules,
      report.group.taskId = origin.task.id ∧
        report.group.findingIds = report.findings.map Finding.id :=
    fun _ member => storedReports_own member
  have hreports := ownReports_storedReports origin.task.id first rules
  apply through_storeOr hshows
  intro now done next hdone hshown _
  have habsent : ∀ report ∈ storedReports origin.task.id first rules,
      (scene.groups.filter fun group => group.id = report.group.id) = [] := by
    intro report member
    rw [List.filter_eq_nil_iff]
    intro group hgroup
    obtain ⟨n, hfirst, _, hid⟩ := mem_numbered.mp (storedReports_group_id member)
    simpa [hid] using hnew group hgroup n hfirst
  have hholds : ∀ report ∈ storedReports origin.task.id first rules,
      (scene.after now (.insertGroups origin.task.id
        (storedReports origin.task.id first rules))).Holds report :=
    Scene.holds_insertGroups (by rw [hunanswered.task]) hown (storedReports_ids_nodup _ _ _)
      habsent
  rw [Scene.after_insertGroups, if_pos hreports] at hshown hholds
  rw [hdone hreports]
  have hstill : Unanswered origin (.sa answer)
      { scene with
        groups := scene.groups ++ (storedReports origin.task.id first rules).map GroupReport.group
        findings := ((storedReports origin.task.id first rules).flatMap
          GroupReport.findings).foldl (fun table finding => table.insert finding.id finding)
            scene.findings } := by
    refine ⟨hunanswered.workflow, hunanswered.task, ?_, nofun⟩
    intro group member n hn
    rcases List.mem_append.mp member with member | member
    · exact hunanswered.numbered group member n hn
    · obtain ⟨report, hreport, rfl⟩ := List.mem_map.mp member
      obtain ⟨m, _, hlast, hid⟩ := mem_numbered.mp (storedReports_group_id hreport)
      rw [hid]
      intro heq
      have hsame : m = n := Uuid.generated_injective heq
      change scene.nextNumber ≤ n at hn
      omega
  exact ⟨⟨_, hshown, Or.inl hstill⟩, h next _ hshown hstill hholds⟩

theorem storedReports_length (taskId : Uuid) (first : Nat)
    (rules : List (String × SaRuleResult)) :
    (storedReports taskId first rules).length = rules.length := by
  induction rules generalizing first with
  | nil => rfl
  | cons rule rest ih =>
    obtain ⟨ruleId, result⟩ := rule
    rw [storedReports, List.length_cons, List.length_cons, ih]

/-- The task once its static analysis has been ended by an answer whose groups have numbers
from `first` on. -/
def endedSa (task : Task) (answer : SaFinished) (first : Nat) : Task :=
  let weaknesses := (answer.rules.flatMap fun rule => rule.2.findings).length
  { task with
    sa :=
      { task.sa with
        status := .ofSuccess answer.success
        progress := finishedProgress
        resultIds := (storedReports task.id first answer.rules).map fun report => report.group.id
        weaknessCount := weaknesses }
    weaknessCount := weaknesses }

def expectedSa (o : Orchestrator) (origin : Scene) (answer : SaFinished) : Outline :=
  o.outlook origin.workflow (endedSa origin.task answer 0)
    (storedReports origin.task.id 0 answer.rules)

def endedMl (task : Task) (answer : MlFinished) : Task :=
  { task with
    ml :=
      { task.ml with
        status := .ofSuccess answer.success
        progress := finishedProgress
        rawResult := if answer.success then answer.result else none } }

def expectedMl (o : Orchestrator) (origin : Scene) (answer : MlFinished) : Outline :=
  o.outlook origin.workflow (endedMl origin.task answer) origin.results

/-- The run that is stored is the one that has been read, so that it is ended. -/
theorem through_endSa {point : System → Prop} {post : Except ServiceError Unit → System → Prop}
    {workflow : Workflow} {task : Task} {run : SaRun} (hshows : system.Shows scene)
    (htask : scene.task = task) (otherwise : Program Unit)
    (h : ∀ now (next : System), next.Shows { scene with
        task := { task with sa := run, weaknessCount := run.weaknessCount, updatedAt := now } } →
      point next ∧ (o.settle workflow task.id).Through point next post) :
    (o.endSa workflow task run otherwise).Through point system post := by
  subst htask
  unfold endSa
  rw [through_bind]
  apply through_moveSa hshows rfl
  intro now next hnext _
  rw [Task.withSa?, if_pos rfl] at hnext ⊢
  exact h now next hnext

/-- With the run ended and its groups stored, settling leads to what is expected. -/
theorem Unanswered.settles_sa {answer : SaFinished} {first : Nat} {run : SaRun}
    {moment : Timestamp} (now : Timestamp)
    (hprogress : origin.workflow.progress + 1 = origin.workflow.steps ∨
      origin.workflow.progress = origin.workflow.steps)
    (hunanswered : Unanswered origin (.sa answer) scene)
    (hholds : ∀ report ∈ storedReports origin.task.id first answer.rules, scene.Holds report)
    (hrun : run = { origin.task.sa with
      status := .ofSuccess answer.success, progress := finishedProgress, endedAt := some moment
      resultIds := (storedReports origin.task.id first answer.rules).map fun report =>
        report.group.id
      weaknessCount := (answer.rules.flatMap fun rule => rule.2.findings).length }) :
    Settles o origin (.sa answer) (o.expectedSa origin answer)
      { scene with
        task := { origin.task with
          sa := run, weaknessCount := run.weaknessCount, updatedAt := now } } := by
  have hworkflow := hunanswered.workflow
  -- The groups to which the run refers are those of this delivery.
  have hresults : Scene.results { scene with
      task := { origin.task with
        sa := run, weaknessCount := run.weaknessCount, updatedAt := now } } =
          storedReports origin.task.id first answer.rules := by
    refine Scene.results_of_holds (by rw [hrun])
      ((Scene.groupIds_sublist _).nodup (storedReports_ids_nodup _ _ _)) fun report member => ?_
    exact (hholds report member).kept (by rw [hunanswered.task]) fun id _ => .refl _ id
  refine ⟨by rw [hworkflow], rfl, rfl, ?_, ?_, ?_⟩
  · have hterminal := isTerminal_of_ended (show run.status = .ofSuccess answer.success by
      rw [hrun])
    simpa [Completion.run?] using hterminal
  · rw [hworkflow]
    exact fun _ => hprogress
  · rw [hresults]
    dsimp only
    rw [hworkflow, hrun]
    apply outlook_congr
    · simp [Outline.of, endedSa, storedReports_length]
    · rfl
    · rfl
    · rw [Merge.told_storedReports, Merge.told_storedReports]

theorem endSa_through {answer : SaFinished} {first : Nat} {run : SaRun} {moment : Timestamp}
    (hprogress : origin.workflow.progress + 1 = origin.workflow.steps ∨
      origin.workflow.progress = origin.workflow.steps)
    (hrunning : origin.workflow.status = .running) (hshows : system.Shows scene)
    (hunanswered : Unanswered origin (.sa answer) scene)
    (hholds : ∀ report ∈ storedReports origin.task.id first answer.rules, scene.Holds report)
    (hrun : run = { origin.task.sa with
      status := .ofSuccess answer.success, progress := finishedProgress, endedAt := some moment
      resultIds := (storedReports origin.task.id first answer.rules).map fun report =>
        report.group.id
      weaknessCount := (answer.rules.flatMap fun rule => rule.2.findings).length })
    (otherwise : Program Unit) :
    (o.endSa origin.workflow origin.task run otherwise).Through
      (Resumes o origin (.sa answer) (o.expectedSa origin answer)) system
        fun _ final => final.outline? origin.workflow.id =
          some (o.expectedSa origin answer) := by
  apply through_endSa hshows hunanswered.task
  intro now next hnext
  have hsettles := hunanswered.settles_sa (o := o) now hprogress hholds hrun
  refine ⟨hsettles.resumes hnext, ?_⟩
  have hsettle := settle_through hnext hsettles (hunanswered.workflow ▸ hrunning)
  dsimp only at hsettle
  rw [hunanswered.workflow] at hsettle
  exact hsettle

theorem acceptFindings_through {answer : SaFinished}
    (hprogress : origin.workflow.progress + 1 = origin.workflow.steps ∨
      origin.workflow.progress = origin.workflow.steps)
    (hrunning : origin.workflow.status = .running)
    (hawaited : origin.task.sa.status = .running) (hshows : system.Shows scene)
    (hunanswered : Unanswered origin (.sa answer) scene) :
    (o.acceptFindings origin.workflow origin.task answer).Through
      (Resumes o origin (.sa answer) (o.expectedSa origin answer)) system
        fun _ final => final.outline? origin.workflow.id =
          some (o.expectedSa origin answer) := by
  have htask := hunanswered.task
  unfold acceptFindings
  dsimp only
  rw [through_bind]
  apply through_reserve hshows
  intro next hnext _
  have hreserved : Unanswered origin (.sa answer)
      { scene with nextNumber := scene.nextNumber + recordCount answer.rules } := by
    refine ⟨hunanswered.workflow, htask, ?_, nofun⟩
    intro group member n hn
    exact hunanswered.numbered group member n (Nat.le_trans (Nat.le_add_right _ _) hn)
  have hpoint : Resumes o origin (.sa answer) (o.expectedSa origin answer) next :=
    ⟨_, hnext, Or.inl hreserved⟩
  refine ⟨hpoint, ?_⟩
  change Through _ (_ >>= _) _ _
  rw [through_bind]
  apply through_clock hpoint
  intro moment
  unfold Rest
  dsimp only
  rw [SaRun.finished_of_running hawaited]
  dsimp only
  split
  · rw [through_bind]
    apply insertGroups_through hnext hreserved rfl hunanswered.numbered
    intro next met hmet hstill hholds
    exact endSa_through hprogress hrunning hmet hstill hholds rfl _
  · rename_i hnone
    have hempty : storedReports origin.task.id scene.nextNumber answer.rules = [] := by
      simpa using hnone
    refine endSa_through hprogress hrunning hnext hreserved ?_ rfl _
    rw [hempty]
    exact nofun

theorem onSaFinished_through {answer : SaFinished}
    (hprogress : origin.workflow.progress + 1 = origin.workflow.steps ∨
      origin.workflow.progress = origin.workflow.steps)
    (hrunning : origin.workflow.status = .running) (hruns : origin.task.runsSa = true)
    (hawaited : origin.task.sa.status = .running)
    (hworkflow : answer.workflowId = origin.workflow.id)
    (htask : answer.taskId = origin.task.id) (hshows : system.Shows scene)
    (hstate : Unanswered origin (.sa answer) scene ∨
      Settles o origin (.sa answer) (o.expectedSa origin answer) scene) :
    (o.onSaFinished answer).Through (Resumes o origin (.sa answer) (o.expectedSa origin answer))
      system fun _ final => final.outline? origin.workflow.id =
        some (o.expectedSa origin answer) := by
  have hpoint : Resumes o origin (.sa answer) (o.expectedSa origin answer) system :=
    ⟨scene, hshows, hstate⟩
  unfold onSaFinished
  rw [through_bind]
  rcases hstate with hunanswered | hsettles
  · apply resolve_through hshows hpoint (by rw [hworkflow, hunanswered.workflow])
      (by rw [htask, hunanswered.task])
    unfold Rest
    dsimp only
    rw [hunanswered.workflow, hunanswered.task, if_neg (by simp [hruns]),
      if_neg (by simp [hawaited, RunStatus.isTerminal])]
    exact acceptFindings_through hprogress hrunning hawaited hshows hunanswered
  · apply resolve_through hshows hpoint (by rw [hworkflow, hsettles.workflow])
      (by rw [htask, hsettles.task])
    have hstill : scene.task.runsSa = true := by
      rw [Task.runsSa, hsettles.kind]
      exact hruns
    have hended : scene.task.sa.status.isTerminal = true := hsettles.ended
    unfold Rest
    dsimp only
    rw [if_neg (by simp [hstill]), if_pos hended]
    exact resettle_through hshows hsettles

theorem endMl_through {answer : MlFinished} {run : MlRun} {moment : Timestamp}
    (hprogress : origin.workflow.progress + 1 = origin.workflow.steps ∨
      origin.workflow.progress = origin.workflow.steps)
    (hrunning : origin.workflow.status = .running) (hshows : system.Shows scene)
    (hunanswered : Unanswered origin (.ml answer) scene)
    (hrun : run = { origin.task.ml with
      status := .ofSuccess answer.success, progress := finishedProgress, endedAt := some moment
      rawResult := if answer.success then answer.result else none })
    (otherwise : Program Unit) :
    (o.endMl origin.workflow origin.task run otherwise).Through
      (Resumes o origin (.ml answer) (o.expectedMl origin answer)) system
        fun _ final => final.outline? origin.workflow.id =
          some (o.expectedMl origin answer) := by
  have hworkflow := hunanswered.workflow
  have htask := hunanswered.task
  unfold endMl
  rw [through_bind]
  apply through_moveMl hshows (by rw [htask])
  intro now next hnext _
  have hmoved : scene.task.withMl? origin.task.ml.status run now = some
      { scene.task with ml := run, updatedAt := now } := if_pos (by rw [htask])
  rw [hmoved, Option.getD_some] at hnext
  rw [hmoved]
  have houtlook : o.outlook scene.workflow { scene.task with ml := run, updatedAt := now }
      scene.results = o.expectedMl origin answer := by
    rw [hunanswered.results ⟨answer, rfl⟩, hworkflow, htask, hrun]
    apply outlook_congr
    · rfl
    · rfl
    · rfl
    · rfl
  have hsettles : Settles o origin (.ml answer) (o.expectedMl origin answer)
      { scene with task := { scene.task with ml := run, updatedAt := now } } := by
    refine ⟨by rw [hworkflow], by rw [htask], by rw [htask], ?_, ?_, houtlook⟩
    · have hterminal := isTerminal_of_ended (show run.status = .ofSuccess answer.success by
        rw [hrun])
      simpa [Completion.run?] using hterminal
    · rw [hworkflow]
      exact fun _ => hprogress
  refine ⟨hsettles.resumes hnext, ?_⟩
  have hsettle := settle_through hnext hsettles (hworkflow ▸ hrunning)
  dsimp only at hsettle
  rw [hworkflow, htask] at hsettle
  exact hsettle

theorem onMlFinished_through {answer : MlFinished}
    (hprogress : origin.workflow.progress + 1 = origin.workflow.steps ∨
      origin.workflow.progress = origin.workflow.steps)
    (hrunning : origin.workflow.status = .running) (hruns : origin.task.runsMl = true)
    (hawaited : origin.task.ml.status = .running)
    (hworkflow : answer.workflowId = origin.workflow.id)
    (htask : answer.taskId = origin.task.id) (hshows : system.Shows scene)
    (hstate : Unanswered origin (.ml answer) scene ∨
      Settles o origin (.ml answer) (o.expectedMl origin answer) scene) :
    (o.onMlFinished answer).Through (Resumes o origin (.ml answer) (o.expectedMl origin answer))
      system fun _ final => final.outline? origin.workflow.id =
        some (o.expectedMl origin answer) := by
  have hpoint : Resumes o origin (.ml answer) (o.expectedMl origin answer) system :=
    ⟨scene, hshows, hstate⟩
  unfold onMlFinished
  rw [through_bind]
  rcases hstate with hunanswered | hsettles
  · apply resolve_through hshows hpoint (by rw [hworkflow, hunanswered.workflow])
      (by rw [htask, hunanswered.task])
    unfold Rest
    dsimp only
    rw [hunanswered.workflow, hunanswered.task, if_neg (by simp [hruns]),
      if_neg (by simp [hawaited, RunStatus.isTerminal]), through_bind]
    apply through_clock hpoint
    intro moment
    unfold Rest
    dsimp only
    rw [MlRun.finished_of_running hawaited]
    exact endMl_through hprogress hrunning hshows hunanswered rfl _
  · apply resolve_through hshows hpoint (by rw [hworkflow, hsettles.workflow])
      (by rw [htask, hsettles.task])
    have hstill : scene.task.runsMl = true := by
      rw [Task.runsMl, hsettles.kind]
      exact hruns
    have hended : scene.task.ml.status.isTerminal = true := hsettles.ended
    unfold Rest
    dsimp only
    rw [if_neg (by simp [hstill]), if_pos hended]
    exact resettle_through hshows hsettles

/-! ### Answers of engines that the task does not run -/

theorem onSaFinished_unrun {answer : SaFinished} (hruns : scene.task.runsSa = false)
    (hworkflow : answer.workflowId = scene.workflow.id)
    (htask : answer.taskId = scene.task.id) (hshows : system.Shows scene) :
    (o.onSaFinished answer).Through (fun next => next = system) system
      fun _ final => final = system := by
  unfold onSaFinished
  rw [through_bind]
  refine resolve_through hshows ?_ hworkflow htask ?_
  · rfl
  · unfold Rest
    dsimp only
    rw [if_pos (by simp [hruns])]
    rfl

theorem onMlFinished_unrun {answer : MlFinished} (hruns : scene.task.runsMl = false)
    (hworkflow : answer.workflowId = scene.workflow.id)
    (htask : answer.taskId = scene.task.id) (hshows : system.Shows scene) :
    (o.onMlFinished answer).Through (fun next => next = system) system
      fun _ final => final = system := by
  unfold onMlFinished
  rw [through_bind]
  refine resolve_through hshows ?_ hworkflow htask ?_
  · rfl
  · unfold Rest
    dsimp only
    rw [if_pos (by simp [hruns])]
    rfl

end Orchestrator

namespace System

open Orchestrator

variable {o : Orchestrator} {start system mid after direct : System}

/-- A message that changes nothing leaves nothing to be resumed. -/
theorem resumed_of_idle {origin : Scene} {message : Completion} (hshows : system.Shows origin)
    (hidle : ∀ system, system.Shows origin → (o.process message).Through
      (fun next => next = system) system fun _ final => final = system)
    (hcut : (o.process message).Cut system mid) {resumed outright : Except ServiceError Unit}
    (hagain : (o.process message).Runs mid resumed after)
    (hdirect : (o.process message).Runs system outright direct) :
    ∃ outline, after.outline? origin.workflow.id = some outline ∧
      direct.outline? origin.workflow.id = some outline := by
  have hmid : mid = system := (hidle system hshows).cut hcut rfl
  subst hmid
  rw [(hidle mid hshows).runs hagain, (hidle mid hshows).runs hdirect]
  exact ⟨_, hshows.outline, hshows.outline⟩

/-- If all deliveries lead to one outline, from wherever they begin, it makes no difference
where the first one has been cut. -/
theorem resumed_of_resumes {origin : Scene} {message : Completion} (expected : Outline)
    (hshows : system.Shows origin) (hunanswered : Unanswered origin message origin)
    (hleads : ∀ system, Resumes o origin message expected system → (o.process message).Through
      (Resumes o origin message expected) system fun _ final =>
        final.outline? origin.workflow.id = some expected)
    (hcut : (o.process message).Cut system mid) {resumed outright : Except ServiceError Unit}
    (hagain : (o.process message).Runs mid resumed after)
    (hdirect : (o.process message).Runs system outright direct) :
    ∃ outline, after.outline? origin.workflow.id = some outline ∧
      direct.outline? origin.workflow.id = some outline := by
  have hstart : Resumes o origin message expected system := ⟨origin, hshows, Or.inl hunanswered⟩
  have hmid := (hleads system hstart).cut hcut hstart
  exact ⟨expected, (hleads mid hmid).runs hagain, (hleads system hstart).runs hdirect⟩

/-- While an engine is awaited, its answer may be cut after any of its calls and delivered
again. The workflow and its task come to the same outline as if it had not been cut. -/
theorem resumed_answer_same (hinitial : start.Initial) (hreach : Reaches o start system)
    {id : Uuid} {workflow : Workflow} {task : Task}
    (hworkflow : system.store.workflows.get? id = some workflow)
    (htask : system.store.tasks.get? workflow.taskId = some task)
    (hrunning : workflow.status = .running) {message : Completion}
    (hanswers : message.Answers id task.id) (hawaited : message.run? task = some .running)
    (hcut : (o.process message).Cut system mid) {resumed outright : Except ServiceError Unit}
    (hagain : (o.process message).Runs mid resumed after)
    (hdirect : (o.process message).Runs system outright direct) :
    ∃ outline, after.outline? id = some outline ∧ direct.outline? id = some outline := by
  obtain ⟨hsound, hnumbered⟩ := hinitial.reaches hreach
  obtain ⟨origin, rfl, rfl, rfl, _, hshows, _, hphase⟩ :=
    hsound.scene_pair hworkflow htask (hsound.keyed.tasks _ task htask).symm
  obtain ⟨_, habout⟩ := hanswers
  have hfresh : ∀ group ∈ origin.groups, ∀ n, origin.nextNumber ≤ n →
      group.id ≠ Uuid.generated n := by
    rw [← hshows.groups, ← hshows.nextNumber]
    exact hnumbered
  cases message with
  | compile _ => exact habout.elim
  | sa answer =>
    have hsa : origin.task.sa.status = .running := Option.some.inj hawaited
    have hprogress :=
      progress_of_analysing (hphase.analysing_of_started hrunning (Or.inl hsa))
    cases hruns : origin.task.runsSa with
    | false =>
      refine resumed_of_idle hshows (fun _ hshows => ?_) hcut hagain hdirect
      exact onSaFinished_unrun hruns habout.1 habout.2 hshows
    | true =>
      have hunanswered : Unanswered origin (.sa answer) origin :=
        ⟨rfl, rfl, hfresh, fun _ => rfl⟩
      refine resumed_of_resumes (o.expectedSa origin answer) hshows hunanswered ?_ hcut hagain
        hdirect
      rintro system ⟨scene, hscene, hstate⟩
      exact onSaFinished_through hprogress hrunning hruns hsa habout.1 habout.2 hscene hstate
  | ml answer =>
    have hml : origin.task.ml.status = .running := Option.some.inj hawaited
    have hprogress :=
      progress_of_analysing (hphase.analysing_of_started hrunning (Or.inr hml))
    cases hruns : origin.task.runsMl with
    | false =>
      refine resumed_of_idle hshows (fun _ hshows => ?_) hcut hagain hdirect
      exact onMlFinished_unrun hruns habout.1 habout.2 hshows
    | true =>
      have hunanswered : Unanswered origin (.ml answer) origin :=
        ⟨rfl, rfl, hfresh, fun _ => rfl⟩
      refine resumed_of_resumes (o.expectedMl origin answer) hshows hunanswered ?_ hcut hagain
        hdirect
      rintro system ⟨scene, hscene, hstate⟩
      exact onMlFinished_through hprogress hrunning hruns hml habout.1 habout.2 hscene hstate

def halfAnswered : System :=
  ((smallOrchestrator.process (.ml seenOne)).run quietWorld (compiled .compileSaMl)).2

/-- The answer of the static analysis, given up after it has claimed the merge. -/
def claimedOnly : System :=
  ((smallOrchestrator.process (.sa foundOne)).solo quietWorld 10 halfAnswered).2

/-- Delivered again, the answer completes the scan as it would have done at once. -/
theorem answer_resumed_after_claim :
    ∃ workflow task, halfAnswered.store.workflows.get? (Uuid.generated 3) = some workflow ∧
      halfAnswered.store.tasks.get? workflow.taskId = some task ∧
      workflow.status = .running ∧ task.id = Uuid.generated 2 ∧ task.sa.status = .running ∧
      (claimedOnly.outline? (Uuid.generated 3)).map
          (fun outline => (outline.status, outline.mergeClaimed)) = some (.running, true) ∧
      ∃ outline, outline.status = .complete ∧
        ((smallOrchestrator.process (.sa foundOne)).run quietWorld claimedOnly).2.outline?
            (Uuid.generated 3) = some outline ∧
        ((smallOrchestrator.process (.sa foundOne)).run quietWorld halfAnswered).2.outline?
            (Uuid.generated 3) = some outline := by
  have hworkflow : (halfAnswered.store.workflows.get? (Uuid.generated 3)).map
      (fun workflow => (workflow.status, workflow.taskId)) =
        some (.running, Uuid.generated 2) := by
    decide +kernel
  have htask : (halfAnswered.store.tasks.get? (Uuid.generated 2)).map
      (fun task => (task.id, task.sa.status)) = some (Uuid.generated 2, .running) := by
    decide +kernel
  have hcomplete : (((smallOrchestrator.process (.sa foundOne)).run quietWorld
      halfAnswered).2.outline? (Uuid.generated 3)).map Outline.status = some .complete := by
    decide +kernel
  obtain ⟨workflow, hworkflow, hstate⟩ := Option.map_eq_some_iff.mp hworkflow
  obtain ⟨task, htask, hruns⟩ := Option.map_eq_some_iff.mp htask
  obtain ⟨hrunning, hlinked⟩ := Prod.mk.inj hstate
  obtain ⟨hid, hsa⟩ := Prod.mk.inj hruns
  rw [← hlinked] at htask
  have hreach : Reaches smallOrchestrator .empty halfAnswered :=
    .step (reaches_compiled .compileSaMl)
      (.process accepts_seenOne
        (runs_quietly _ _))
  have hanswers : (Completion.sa foundOne).Answers (Uuid.generated 3) task.id := by
    rw [hid]
    exact ⟨⟨.saFinish, foundOne.toJson, rfl⟩, rfl, rfl⟩
  obtain ⟨outline, hagain, hdirect⟩ := resumed_answer_same initial_empty hreach hworkflow htask
    hrunning hanswers (congrArg some hsa) (Program.cut_solo quietWorld 10 _ _) (runs_quietly _ _)
    (runs_quietly _ _)
  rw [hdirect] at hcomplete
  refine ⟨workflow, task, hworkflow, htask, hrunning, hid, hsa, ?_, outline, ?_, hagain, hdirect⟩
  · decide +kernel
  · exact Option.some.inj hcomplete

end System

end ScanFlow
