import ScanFlow.Proofs.Lifecycle.Reach
import ScanFlow.Proofs.Race.Deliveries

/-!
One merge for all the answers of both engines.

Any number of answers may be on their way for a task with two engine runs, repeated and
contradicting one another, and their calls may come in any order. The merge is claimed at most
once. When all deliveries have ended and both runs have too, the workflow has ended: with the
summary of everything that was recorded, or, after a failed run, without a summary.
-/

namespace ScanFlow

/-- The groups that the static analysis of a task has recorded, in that order, if all of them
are stored. -/
def Store.resultReports (store : Store) (task : Task) : Option (List GroupReport) :=
  task.sa.resultIds.mapM fun id =>
    (store.groupReports task.id).find? fun report => report.group.id = id

namespace Orchestrator

def delivering (o : Orchestrator) (system : System) (messages : List Completion) : Flight :=
  Flight.launch system (messages.map o.process)

structure Merged (o : Orchestrator) (store : Store) (task : Task) : Prop where
  claimed : task.mergeClaimed = true
  results : ∃ reports raw snapshot, store.resultReports task = some reports ∧
    task.ml.rawResult = some raw ∧ task.snapshot = some snapshot ∧
      Merge.merge reports raw (some snapshot) o.thresholds = .ok task.summary.results

/-- What is stored once all answers for a task have been dealt with. Before that, the task was
as it is given here. -/
structure Decided (o : Orchestrator) (store : Store) (before : Task) (workflow : Workflow)
    (task : Task) : Prop where
  snapshot : task.snapshot = before.snapshot
  merged : task.sa.status = .success → task.ml.status = .success →
    (∀ report ∈ store.groupReports task.id, report.group.id ∈ task.sa.resultIds →
      ∀ finding ∈ report.findings, finding.sinkFile ≠ "") →
        o.Merged store task ∧ workflow.status = .complete
  failed : task.sa.status.isTerminal = true → task.ml.status.isTerminal = true →
    ¬(task.sa.status = .success ∧ task.ml.status = .success) →
      task.mergeClaimed = false ∧ task.summary = before.summary ∧ workflow.status = .aborted

variable {o : Orchestrator} {origin scene : Scene} {history : List Event} {shares : List Share}

/-! ### The thresholds of the settings -/

/-- An orchestrator has valid thresholds, as its settings give them. -/
theorem ofSettings_thresholds {settings : Settings} (h : ofSettings settings = .ok o) :
    o.thresholds = ⟨settings.mergeThresholdLow, settings.mergeThresholdHigh⟩ ∧
      o.thresholds.isValid = true := by
  unfold ofSettings at h
  dsimp only at h
  split at h
  · rename_i hvalid
    cases h
    refine ⟨rfl, ?_⟩
    unfold Thresholds.validate at hvalid
    split at hvalid
    · assumption
    · cases hvalid
  · cases h

/-- Settings make exactly the orchestrators with valid thresholds. -/
theorem exists_ofSettings_iff :
    (∃ settings, ofSettings settings = .ok o) ↔ o.thresholds.isValid = true := by
  constructor
  · rintro ⟨settings, hsettings⟩
    exact (ofSettings_thresholds hsettings).2
  · intro hvalid
    refine ⟨{ blobUrlExpirySecs := o.urlLifetime
              engineTimeoutMinutes := o.defaultLimits.timeoutMinutes
              engineMaxMemoryGb := o.defaultLimits.maxMemoryGb
              mergeThresholdLow := o.thresholds.low
              mergeThresholdHigh := o.thresholds.high }, ?_⟩
    simp [ofSettings, Thresholds.validate, hvalid]

/-! ### What is stored -/

theorem mapM_find {all wanted : List GroupReport}
    (h : ∀ report ∈ wanted, all.find? (fun other => other.group.id = report.group.id) =
      some report) :
    (wanted.map fun report => report.group.id).mapM
      (fun id => all.find? fun other => other.group.id = id) = some wanted := by
  induction wanted with
  | nil => rfl
  | cons first rest ih =>
    have hrest := ih fun report member => h report (List.mem_cons_of_mem _ member)
    rw [List.map_cons, List.mapM_cons, h first List.mem_cons_self, hrest]
    rfl

theorem groupReports_eq {system : System} (hshows : system.Shows scene) (taskId : Uuid) :
    system.store.groupReports taskId = scene.reports taskId := by
  unfold Store.groupReports Scene.reports
  rw [hshows.groups, hshows.findings]

/-- What is merged are the groups that have been recorded. -/
theorem resultReports_eq {system : System} (hshows : system.Shows scene)
    (hrecorded : scene.Recorded scene.task.sa.resultIds scene.results) :
    system.store.resultReports scene.task = some scene.results := by
  unfold Store.resultReports
  rw [groupReports_eq hshows, ← hrecorded.ids]
  apply mapM_find
  intro report member
  rw [← List.head?_filter, (hrecorded.holds report member).sole_report]
  rfl

/-- The findings to be merged end in some file if all that the groups refer to do. -/
theorem sunk_of_stored {system : System} (hshows : system.Shows scene)
    (hrecorded : scene.Recorded scene.task.sa.resultIds scene.results)
    (hsink : ∀ report ∈ system.store.groupReports scene.task.id,
      report.group.id ∈ scene.task.sa.resultIds →
        ∀ finding ∈ report.findings, finding.sinkFile ≠ "") : scene.Sunk := by
  intro report member
  apply hsink report
  · have hsole := (hrecorded.holds report member).sole_report
    rw [groupReports_eq hshows]
    exact (List.mem_filter.mp (hsole ▸ List.mem_singleton_self report)).1
  · rw [← hrecorded.ids]
    exact List.mem_map.mpr ⟨report, member, rfl⟩

/-- Where nobody owes a settlement any more, the workflow has ended with both of its runs. -/
theorem Pooled.status (hpool : Pooled o origin history scene shares)
    (hpaid : ∀ share ∈ shares, share.owes = false) (hterminal : scene.task.bothTerminal = true) :
    scene.workflow.status = .complete ∨ scene.workflow.status = .aborted := by
  cases hstatus : scene.workflow.status with
  | running =>
    obtain ⟨share, member, howes⟩ := hpool.debt hterminal hstatus
    rw [hpaid share member] at howes
    cases howes
  | complete => exact Or.inl rfl
  | aborted => exact Or.inr rfl

theorem Pooled.decided {system : System} (hshows : system.Shows scene)
    (hpool : Pooled o origin history scene shares)
    (hpaid : ∀ share ∈ shares, share.owes = false) (hsnapshot : origin.task.snapshot.isSome) :
    o.Decided system.store origin.task scene.workflow scene.task where
  snapshot := hpool.lawful.snapshot
  merged := by
    intro hsa hml hsink
    have hlawful := hpool.lawful
    have hboth : scene.task.bothSucceeded = true := bothSucceeded_iff.mpr ⟨hsa, hml⟩
    have hterminal : scene.task.bothTerminal = true := by
      simp [Task.bothTerminal, hsa, hml, RunStatus.isTerminal]
    have hrecorded := (hlawful.recorded hsa).1
    rcases hpool.status hpaid hterminal with hcomplete | haborted
    · have hclaimed := (hlawful.complete hcomplete).2 (sunk_of_stored hshows hrecorded hsink)
      obtain ⟨raw, hraw, _⟩ := hlawful.probable hml
      obtain ⟨snapshot, htaken⟩ := Option.isSome_iff_exists.mp hsnapshot
      rw [← hlawful.snapshot] at htaken
      have hmerged := (hlawful.claimed hclaimed).2
      unfold mergeRecords at hmerged
      rw [hraw, htaken, Option.getD_some] at hmerged
      exact ⟨⟨hclaimed, scene.results, raw, snapshot, resultReports_eq hshows hrecorded, hraw,
        htaken, hmerged⟩, hcomplete⟩
    · rw [(hlawful.aborted haborted).2] at hboth
      cases hboth
  failed := by
    intro hsa hml hnot
    have hlawful := hpool.lawful
    have hboth : scene.task.bothSucceeded = false := by
      rw [Bool.eq_false_iff]
      exact fun htrue => hnot (bothSucceeded_iff.mp htrue)
    have hterminal : scene.task.bothTerminal = true := by
      simp [Task.bothTerminal, hsa, hml]
    have hunclaimed : scene.task.mergeClaimed = false := by
      rw [Bool.eq_false_iff]
      intro hclaimed
      rw [(hlawful.claimed hclaimed).1] at hboth
      cases hboth
    refine ⟨hunclaimed, hlawful.unclaimed hunclaimed, ?_⟩
    rcases hpool.status hpaid hterminal with hcomplete | haborted
    · rw [(hlawful.complete hcomplete).1] at hboth
      cases hboth
    · exact haborted

/-! ### All orders of calls -/

/-- A task whose engines have both been started is where the race begins. -/
theorem lawful_start {system : System} (hshows : system.Shows origin)
    (hanalysing : Analysing origin.workflow origin.task) (hnumbered : system.Numbered)
    (hkind : origin.task.kind = some .saMl) (hsa : origin.task.sa.status = .running)
    (hml : origin.task.ml.status = .running) : Lawful o origin origin := by
  have hunclaimed := hanalysing.dispatched.unclaimed
  have hrunning := hanalysing.running
  have hprogress : origin.workflow.progress + 1 = origin.workflow.steps := by
    have hnone : someEnded origin.workflow.shape origin.task = false := by
      simp [someEnded, hsa, hml, RunStatus.isTerminal]
    simpa [hnone] using hanalysing.progress
  constructor
  · rfl
  · rfl
  · exact hkind
  · rfl
  · omega
  · omega
  · exact fun hended => absurd hrunning hended
  · simp [hsa]
  · simp [hml]
  · simp [hsa]
  · simp [hml]
  · simp [hunclaimed]
  · exact fun _ => rfl
  · simp [hrunning]
  · simp [hrunning]
  · intro group member n hn
    rw [← hshows.groups] at member
    rw [← hshows.nextNumber] at hn
    exact hnumbered group member n hn

/-- At the start no delivery owns or owes anything. -/
theorem pooled_start (hlawful : Lawful o origin origin) (hsa : origin.task.sa.status = .running)
    (hunclaimed : origin.task.mergeClaimed = false) (messages : List Completion) :
    Pooled o origin [] origin (messages.map fun _ => ⟨[], false⟩) := by
  have hshare : ∀ share ∈ messages.map (fun _ => (⟨[], false⟩ : Share)), share = ⟨[], false⟩ := by
    intro share member
    obtain ⟨_, _, rfl⟩ := List.mem_map.mp member
    rfl
  constructor
  · exact hlawful
  · intro share member
    rw [hshare share member]
    exact ⟨nofun, nofun, nofun⟩
  · intro i j first second _ hfirst _ id hid
    rw [hshare first (List.mem_of_getElem? hfirst)] at hid
    cases hid
  · intro hterminal
    simp [Task.bothTerminal, hsa, RunStatus.isTerminal] at hterminal
  · rw [hunclaimed]
    rfl

end Orchestrator

namespace System

open Orchestrator

variable {o : Orchestrator} {start system : System}

/-- While a task waits for both of its engines, any number of their answers may be delivered
at once. In every order of calls the merge is claimed at most once, and when all deliveries
have ended the task has been decided as its two runs have ended. -/
theorem merged_once (hinitial : start.Initial) (hreach : Reaches o start system)
    {settings : Settings} (hsettings : ofSettings settings = .ok o) {id : Uuid}
    {workflow : Workflow} {task : Task} (hworkflow : system.store.workflows.get? id = some workflow)
    (htask : system.store.tasks.get? workflow.taskId = some task)
    (hkind : task.kind = some .saMl) (hrunning : workflow.status = .running)
    (hsa : task.sa.status = .running) (hml : task.ml.status = .running)
    (messages : List Completion) (hanswers : ∀ message ∈ messages, message.Answers id task.id)
    (schedule : List (Nat × Environment)) :
    ((o.delivering system messages).fly schedule).history.countP (Event.claims task.id) ≤ 1 ∧
      (((o.delivering system messages).fly schedule).landed = true → ∃ ended decided,
        ((o.delivering system messages).fly schedule).system.store.workflows.get? id =
            some ended ∧
          ((o.delivering system messages).fly schedule).system.store.tasks.get? task.id =
            some decided ∧
          o.Decided ((o.delivering system messages).fly schedule).system.store task ended
            decided) := by
  have hvalid := exists_ofSettings_iff.mp ⟨settings, hsettings⟩
  obtain ⟨hsound, hnumbered⟩ := hinitial.reaches hreach
  have hid := hsound.keyed.workflows id workflow hworkflow
  obtain ⟨origin, rfl, hshows, _, hphase⟩ := hsound.scene hworkflow
  have hsame : origin.task = task := by
    rw [hshows.linked, hshows.task] at htask
    exact Option.some.inj htask
  subst hsame
  have hanalysing : Analysing origin.workflow origin.task := by
    cases hphase with
    | compiling h => exact absurd (h.sa.symm.trans hsa) nofun
    | analysing h => exact h
    | completed h => exact absurd (h.complete.symm.trans hrunning) nofun
    | aborted h => exact absurd (h.symm.trans hrunning) nofun
  rw [← hid] at hanswers ⊢
  have hlaunch : (o.delivering system messages).Joined (merging o origin)
      (Pooled o origin) (fun share => share.owes = false) origin
      (messages.map fun _ => ⟨[], false⟩) := by
    apply Flight.joined_launch merging_upholds hshows
    · exact pooled_start (lawful_start hshows hanalysing hnumbered hkind hsa hml) hsa
        hanalysing.dispatched.unclaimed messages
    · simp
    · intro index program share hprogram hshare
      rw [List.getElem?_map, Option.map_eq_some_iff] at hprogram
      obtain ⟨message, hmessage, rfl⟩ := hprogram
      rw [List.getElem?_map, hmessage, Option.map_some, Option.some.injEq] at hshare
      rw [← hshare]
      exact process_keeps hvalid hshows.linked (hanswers message (List.mem_of_getElem? hmessage))
        rfl
  obtain ⟨reached, shares, hjoined⟩ := hlaunch.fly merging_upholds schedule
  have hpool := hjoined.pool
  constructor
  · rw [hpool.claims]
    exact Bool.toNat_le _
  · intro hlanded
    refine ⟨reached.workflow, reached.task, ?_, ?_, ?_⟩
    · rw [← hpool.lawful.workflow_id]
      exact hjoined.shows.workflow
    · rw [← hpool.lawful.id]
      exact hjoined.shows.task
    · exact hpool.decided hjoined.shows (hjoined.landed hlanded) hanalysing.dispatched.snapshot

/-! ### Answers that contradict one another -/

def contradicted : Flight :=
  smallOrchestrator.delivering (compiled .compileSaMl) [.sa foundOne, .sa gaveUp, .ml seenOne]

/-- Turns in which the second answer has read the task when the first one ends its run. -/
def contradicting : List (Nat × Environment) :=
  ([1, 1, 0, 0, 0, 0, 0, 0, 1, 1, 1] ++ (List.replicate 12 [2, 0, 1]).flatten).map
    fun index => (index, quietWorld)

/-- All of them are accepted, and about that scan. -/
theorem answers_contradicting :
    ∀ message ∈ [Completion.sa foundOne, .sa gaveUp, .ml seenOne],
      message.Answers (Uuid.generated 3) (Uuid.generated 2) := by
  intro message member
  simp only [List.mem_cons, List.not_mem_nil, or_false] at member
  rcases member with rfl | rfl | rfl
  · exact ⟨⟨.saFinish, foundOne.toJson, rfl⟩, rfl, rfl⟩
  · exact ⟨⟨.saFinish, gaveUp.toJson, rfl⟩, rfl, rfl⟩
  · exact ⟨⟨.mlFinish, seenOne.toJson, rfl⟩, rfl, rfl⟩

/-- The scan does wait for both engines. -/
theorem compiled_awaits_both :
    ∃ workflow task, (compiled .compileSaMl).store.workflows.get? (Uuid.generated 3) =
        some workflow ∧
      (compiled .compileSaMl).store.tasks.get? workflow.taskId = some task ∧
      task.id = Uuid.generated 2 ∧ task.kind = some .saMl ∧ workflow.status = .running ∧
        task.sa.status = .running ∧ task.ml.status = .running := by
  have hworkflow : ((compiled .compileSaMl).store.workflows.get? (Uuid.generated 3)).map
      (fun workflow => (workflow.status, workflow.taskId)) =
        some (.running, Uuid.generated 2) := by
    decide +kernel
  have htask : ((compiled .compileSaMl).store.tasks.get? (Uuid.generated 2)).map
      (fun task => (task.id, task.kind, task.sa.status, task.ml.status)) =
        some (Uuid.generated 2, some .saMl, .running, .running) := by
    decide +kernel
  obtain ⟨workflow, hworkflow, hstate⟩ := Option.map_eq_some_iff.mp hworkflow
  obtain ⟨task, htask, hruns⟩ := Option.map_eq_some_iff.mp htask
  simp only [Prod.mk.injEq] at hstate hruns
  obtain ⟨hrunning, hlinked⟩ := hstate
  obtain ⟨hid, hkind, hsa, hml⟩ := hruns
  rw [← hlinked] at htask
  exact ⟨workflow, task, hworkflow, htask, hid, hkind, hrunning, hsa, hml⟩

/-- The answer that came second has changed nothing: the finding is merged, and the scan is
complete. -/
theorem contradicting_answers_merged :
    (contradicted.fly contradicting).history.countP (Event.claims (Uuid.generated 2)) ≤ 1 ∧
      ∃ ended decided,
        (contradicted.fly contradicting).system.store.workflows.get? (Uuid.generated 3) =
            some ended ∧
          (contradicted.fly contradicting).system.store.tasks.get? (Uuid.generated 2) =
            some decided ∧
          smallOrchestrator.Merged (contradicted.fly contradicting).system.store decided ∧
            ended.status = .complete := by
  obtain ⟨workflow, task, hworkflow, htask, hid, hkind, hrunning, hsa, hml⟩ :=
    compiled_awaits_both
  have hanswers := answers_contradicting
  rw [← hid] at hanswers
  have hlanded : (contradicted.fly contradicting).landed = true := by decide +kernel
  obtain ⟨honce, hdecided⟩ := merged_once initial_empty (reaches_compiled .compileSaMl)
    ofSettings_smallSettings hworkflow htask hkind hrunning hsa hml _ hanswers contradicting
  rw [hid] at honce hdecided
  obtain ⟨ended, decided, hended, hstored, hdecided⟩ := hdecided hlanded
  have hsuccess : ((contradicted.fly contradicting).system.store.tasks.get?
      (Uuid.generated 2)).map (fun task => (task.id, task.sa.status, task.ml.status)) =
        some (Uuid.generated 2, .success, .success) := by
    decide +kernel
  have hsink : ((contradicted.fly contradicting).system.store.groupReports
      (Uuid.generated 2)).all (fun report =>
        report.findings.all fun finding => finding.sinkFile != "") = true := by
    decide +kernel
  unfold contradicted at hsuccess hsink ⊢
  rw [hstored] at hsuccess
  simp only [Option.map_some, Option.some.injEq, Prod.mk.injEq] at hsuccess
  obtain ⟨hsame, hfound, hseen⟩ := hsuccess
  refine ⟨honce, ended, decided, hended, hstored, hdecided.merged hfound hseen ?_⟩
  rw [hsame]
  intro report member _ finding hfinding
  have hall := List.all_eq_true.mp (List.all_eq_true.mp hsink report member) finding hfinding
  simpa using hall

end System

end ScanFlow
