import ScanFlow.Proofs.Lifecycle.Process
import ScanFlow.Proofs.Message.Accepted
import ScanFlow.Proofs.Race.Merging

/-!
The deliveries of both engines' answers keep the accord of their task.

A delivery works with copies: the workflow and the task as it has read them. What it may
conclude from a copy is what no other delivery can undo. A stage that has been counted stays
counted, and an engine run that has ended stays as it is. Of the reports that it stores itself
it knows more, since it alone has their identifiers.
-/

namespace ScanFlow.Orchestrator

open Program

variable {o : Orchestrator} {origin scene met reached : Scene} {share learnt : Share}
  {workflow : Workflow} {task : Task} {own : List Uuid}

/-- A copy of the workflow: later only more stages may have been counted. -/
structure Copied (origin scene : Scene) (workflow : Workflow) : Prop where
  fixed : workflow.fixed = origin.workflow.fixed
  reached : workflow.progress ≤ scene.workflow.progress
  ended : workflow.status ≠ .running → workflow.steps ≤ workflow.progress

structure Counted (origin scene : Scene) (workflow : Workflow) : Prop where
  fixed : workflow.fixed = origin.workflow.fixed
  reached : workflow.progress ≤ scene.workflow.progress
  full : workflow.isFullyProgressed = true

structure Read (origin : Scene) (task : Task) : Prop where
  id : task.id = origin.task.id
  kind : task.kind = some .saMl
  snapshot : task.snapshot = origin.task.snapshot

/-- Copies from which the workflow can be ended: all stages are counted, and both runs have
ended; they are still as they were. -/
structure Final (origin scene : Scene) (workflow : Workflow) (task : Task) : Prop where
  counted : Counted origin scene workflow
  read : Read origin task
  terminal : task.bothTerminal = true
  sa : scene.task.sa = task.sa
  ml : scene.task.ml = task.ml
  claimed : task.mergeClaimed = true → scene.task.mergeClaimed = true

theorem Lawful.copied (hmet : Lawful o origin met) : Copied origin met met.workflow where
  fixed := hmet.fixed
  reached := Nat.le_refl _
  ended h := Nat.le_of_eq (hmet.ended h).symm

theorem Lawful.read (hmet : Lawful o origin met) : Read origin met.task :=
  ⟨hmet.id, hmet.kind, hmet.snapshot⟩

theorem Lawful.workflow_id (hmet : Lawful o origin met) :
    met.workflow.id = origin.workflow.id :=
  Workflow.id_of_fixed hmet.fixed

theorem Lawful.workflow_steps (hmet : Lawful o origin met) :
    met.workflow.steps = origin.workflow.steps :=
  Workflow.steps_of_fixed hmet.fixed

theorem Copied.later (h : Copied origin scene workflow) (hlater : Later own scene met) :
    Copied origin met workflow :=
  { h with reached := Nat.le_trans h.reached hlater.progress }

/-- A copy is none the worse for a call that leaves the workflow alone. -/
theorem Copied.kept (h : Copied origin met workflow) (hsame : reached.workflow = met.workflow) :
    Copied origin reached workflow :=
  { h with reached := hsame ▸ h.reached }

theorem Counted.later (h : Counted origin scene workflow) (hlater : Later own scene met) :
    Counted origin met workflow :=
  { h with reached := Nat.le_trans h.reached hlater.progress }

/-- Once all stages are counted on a copy, they are counted. -/
theorem Counted.progress (h : Counted origin met workflow) (hmet : Lawful o origin met) :
    met.workflow.progress = met.workflow.steps := by
  have hsteps : workflow.steps = origin.workflow.steps :=
    Workflow.steps_of_fixed h.fixed
  have hfull := Workflow.isFullyProgressed_iff.mp h.full
  have hreached := h.reached
  have hupper := hmet.upper
  have hsame := hmet.workflow_steps
  omega

theorem Final.later (h : Final origin scene workflow task) (hlater : Later own scene met) :
    Final origin met workflow task := by
  obtain ⟨hsa, hml⟩ : task.sa.status.isTerminal = true ∧ task.ml.status.isTerminal = true := by
    simpa [Task.bothTerminal] using h.terminal
  constructor
  · exact h.counted.later hlater
  · exact h.read
  · exact h.terminal
  · exact (hlater.sa (by rw [h.sa]; exact hsa)).trans h.sa
  · exact (hlater.ml (by rw [h.ml]; exact hml)).trans h.ml
  · exact fun hclaimed => hlater.claimed (h.claimed hclaimed)

theorem Final.bothSucceeded (h : Final origin scene workflow task) :
    scene.task.bothSucceeded = task.bothSucceeded := by
  unfold Task.bothSucceeded
  rw [h.sa, h.ml]

theorem Final.bothTerminal (h : Final origin scene workflow task) :
    scene.task.bothTerminal = true := by
  have hterminal := h.terminal
  unfold Task.bothTerminal at hterminal ⊢
  rw [h.sa, h.ml]
  exact hterminal

/-! ### Settling -/

/-- Reading the clock is always granted. -/
theorem clock_keeps {post : Except ServiceError Timestamp → Share → Scene → Prop}
    (h : ∀ met, Lawful o origin met → Later share.own scene met → ∀ now,
      post (.ok now) share met) :
    Program.clock.Keeps (merging o origin) share scene post := by
  rintro met ⟨hmet, hlater⟩ env now reached hmoves
  cases hmoves
  exact ⟨share, rfl, h met hmet hlater now⟩

/-- What is read is read from a lawful state, and changes nothing. -/
theorem read_keeps {α : Type} {operation : Store.Operation α}
    {post : Except ServiceError α → Share → Scene → Prop}
    (hgrants : ∀ met, Granted o operation share met share)
    (hsame : ∀ (met : Scene) now, met.after now operation = met)
    (h : ∀ met, Lawful o origin met → Later share.own scene met → ∀ now answer,
      operation.Answers now met answer → post (.ok answer) share met) :
    (Program.store operation).Keeps (merging o origin) share scene post := by
  rintro met ⟨hmet, hlater⟩ env answer reached ⟨hanswer, hreached⟩
  rw [hsame] at hreached
  cases hreached
  exact ⟨share, hgrants met, h met hmet hlater env.now answer hanswer⟩

/-- A workflow that cannot be advanced has counted all its stages. -/
theorem Lawful.full_of_not_advanced (hmet : Lawful o origin met) {moment : Timestamp}
    (hnone : met.workflow.advanced? moment = none) :
    met.workflow.progress = met.workflow.steps := by
  by_cases hrunning : met.workflow.status = .running
  · have hrest : met.workflow.isFullyProgressed = true := by
      rw [← Bool.not_eq_false]
      intro hleft
      simp [Workflow.advanced?, Workflow.isRunning, hrunning, hleft] at hnone
    have hupper := hmet.upper
    have hless := Workflow.isFullyProgressed_iff.mp hrest
    omega
  · exact hmet.ended hrunning

/-- Advancing ends with a copy on which all stages are counted, whoever counted them. -/
theorem advance_keeps (hcopied : Copied origin scene workflow) :
    (advance workflow).Keeps (merging o origin) share scene fun outcome learnt reached =>
      learnt = share ∧ ∃ counted, outcome = .ok counted ∧ Counted origin reached counted := by
  unfold advance
  split
  · rename_i hskip
    refine ⟨rfl, workflow, rfl, hcopied.fixed, hcopied.reached, ?_⟩
    simp only [Bool.or_eq_true, Bool.not_eq_true'] at hskip
    rcases hskip with hended | hfull
    · have hstatus : workflow.status ≠ .running := by
        intro hrunning
        simp [Workflow.isRunning, hrunning] at hended
      exact Workflow.isFullyProgressed_iff.mpr (hcopied.ended hstatus)
    · exact hfull
  · rw [keeps_bind]
    apply clock_keeps
    intro between _ hbetween moment
    have hid : workflow.id = origin.workflow.id :=
      Workflow.id_of_fixed hcopied.fixed
    change Keeps _ (_ >>= _) _ _ _
    rw [keeps_bind, Program.store, keeps_ask]
    rintro met ⟨hmet, hlater⟩ env answer reached hmoves
    have hown := hid.trans hmet.workflow_id.symm
    have hanswer : answer = met.workflow.advanced? moment := hmoves.1 hown
    have hreached := hmoves.2
    rw [Scene.after_workflowChange (by rw [hown]; rfl)] at hreached
    refine ⟨share, ⟨hown, rfl⟩, ?_⟩
    rw [← hanswer] at hreached
    unfold Follows
    dsimp only
    cases answer with
    | some advanced =>
      obtain ⟨_, hleft, hadvanced⟩ := Workflow.advanced?_eq_some hanswer.symm
      have hlower := hmet.lower
      rw [hreached]
      refine ⟨rfl, advanced, rfl, ?_, Nat.le_refl _, ?_⟩
      · rw [hadvanced]
        exact hmet.fixed
      · rw [hadvanced]
        exact Workflow.isFullyProgressed_iff.mpr hlower
    | none =>
      have hfull : reached.workflow.progress = reached.workflow.steps := by
        rw [hreached]
        exact hmet.full_of_not_advanced hanswer.symm
      have hsteps : reached.workflow.steps = origin.workflow.steps := by
        rw [hreached]
        exact hmet.workflow_steps
      change Keeps _ (_ >>= _) _ _ _
      rw [keeps_bind]
      refine read_keeps (fun _ => rfl) (fun _ _ => rfl) ?_
      intro again hagain hlast now found hanswer
      have hfound : found = some again.workflow := hanswer (hid.trans hagain.workflow_id.symm)
      have hprogress := hlast.progress
      have hsame := hagain.workflow_steps
      rw [hfound]
      refine ⟨rfl, again.workflow, rfl, hagain.fixed, Nat.le_refl _, ?_⟩
      apply Workflow.isFullyProgressed_iff.mpr
      omega

theorem results_ofResults (records : List MergeRecord) (now : Timestamp) :
    (Summary.ofResults records now).results = records := by
  unfold Summary.ofResults
  cases records with
  | nil => rfl
  | cons first rest => rfl

/-- What could not be merged had a finding that ends in no file. -/
theorem Lawful.not_sunk {e : CorrelationError} (hmet : Lawful o origin met)
    (hvalid : o.thresholds.isValid = true) (hboth : met.task.bothSucceeded = true)
    (hfailed : o.mergeRecords met.task met.results = .error e) : ¬met.Sunk := by
  intro hsunk
  obtain ⟨hsa, hml⟩ := bothSucceeded_iff.mp hboth
  obtain ⟨report, hraw, hprobable⟩ := hmet.probable hml
  obtain ⟨records, hrecords⟩ := Merge.merge_ok met.task.snapshot hvalid
    (hmet.recorded hsa).1.regular hsunk hprobable
  unfold mergeRecords at hfailed
  rw [hraw, Option.getD_some, hrecords] at hfailed
  cases hfailed

/-- A copy that is final is merged like the task itself. -/
theorem Final.mergeRecords (h : Final origin met workflow task)
    (hmet : Lawful o origin met) (reports : List GroupReport) :
    o.mergeRecords met.task reports = o.mergeRecords task reports := by
  unfold Orchestrator.mergeRecords
  rw [h.ml, hmet.snapshot, h.read.snapshot]

/-- What is to be merged for a copy that is final remains the same. -/
theorem Final.results (h : Final origin scene workflow task) (hboth : task.bothSucceeded = true)
    (hlater : Later own scene met) : met.results = scene.results := by
  apply hlater.results
  rw [h.sa]
  exact (bothSucceeded_iff.mp hboth).1

/-- Whoever claims the merge after both runs have succeeded, it is claimed then. -/
theorem claimMerge_keeps (hfinal : Final origin scene workflow task)
    (hboth : task.bothSucceeded = true) {summary : Summary} (count : Nat)
    (hrecords : o.mergeRecords task scene.results = .ok summary.results) :
    (Program.store (.claimMerge task.id summary count)).Keeps (merging o origin) share scene
      fun outcome learnt reached => learnt = share ∧ Final origin reached workflow task ∧
        (∃ won, outcome = .ok won) ∧ reached.task.mergeClaimed = true := by
  rintro met ⟨hmet, hlater⟩ env won reached ⟨_, hreached⟩
  have hmerged := hfinal.later hlater
  have hsuccess := hmerged.bothSucceeded.trans hboth
  have hown := hfinal.read.id.trans hmet.id.symm
  refine ⟨share, ⟨hown, ?_, rfl⟩, rfl, ?_⟩
  · intro _
    rw [hmerged.mergeRecords hmet, hfinal.results hboth hlater]
    exact hrecords
  · rw [Scene.after_taskChange (by rw [hown]; rfl)] at hreached
    cases hnext : met.task.withClaim? summary count env.now with
    | none =>
      rw [hnext] at hreached
      have hclaimed : met.task.mergeClaimed = true := by
        simpa [Task.withClaim?, hsuccess] using hnext
      rw [hreached]
      exact ⟨hmerged, ⟨won, rfl⟩, hclaimed⟩
    | some changed =>
      rw [hnext] at hreached
      obtain ⟨_, _, hchanged⟩ := Task.withClaim?_eq_some hnext
      rw [hreached, hchanged]
      obtain ⟨hfixed, hprogress, hfull⟩ := hmerged.counted
      exact ⟨{ hmerged with counted := ⟨hfixed, hprogress, hfull⟩, claimed := fun _ => rfl },
        ⟨won, rfl⟩, rfl⟩

/-- After a merge the claim is made, by this delivery or by another one, if the findings allow
for a merge at all. -/
theorem mergeOnce_keeps (hvalid : o.thresholds.isValid = true)
    (hfinal : Final origin scene workflow task) (hboth : task.bothSucceeded = true) :
    (o.mergeOnce task).Keeps (merging o origin) share scene fun outcome learnt reached =>
      learnt = share ∧ Final origin reached workflow task ∧ (∃ won, outcome = .ok won) ∧
        (reached.Sunk → reached.task.mergeClaimed = true) := by
  unfold mergeOnce
  rw [hboth]
  cases hclaimed : task.mergeClaimed with
  | true => exact ⟨rfl, hfinal, ⟨false, rfl⟩, fun _ => hfinal.claimed hclaimed⟩
  | false =>
    change Keeps _ (_ >>= _) _ _ _
    rw [keeps_bind, loadReports, keeps_bind]
    refine read_keeps (fun _ => rfl) (fun _ _ => rfl) ?_
    intro met hmet hlater now answer hanswer
    have hmerged := hfinal.later hlater
    have hresults : pickReports answer task.sa.resultIds = met.results := by
      rw [hanswer, hfinal.read.id, ← hmet.id, ← hmerged.sa]
      rfl
    unfold Follows
    dsimp only
    rw [hresults, keeps_pure]
    dsimp only
    cases hmerge : o.mergeRecords task met.results with
    | error e =>
      have hsuccess := hmerged.bothSucceeded.trans hboth
      rw [← hmerged.mergeRecords hmet] at hmerge
      exact ⟨rfl, hmerged, ⟨false, rfl⟩,
        fun hsunk => absurd hsunk (hmet.not_sunk hvalid hsuccess hmerge)⟩
    | ok records =>
      change Keeps _ (_ >>= _) _ _ _
      rw [keeps_bind]
      apply clock_keeps
      intro between _ hbetween moment
      apply keeps_mono (claimMerge_keeps (hmerged.later hbetween) hboth _ ?_)
      · rintro outcome learnt reached ⟨hlearnt, hfinal, hanswer, hclaimed⟩
        exact ⟨hlearnt, hfinal, hanswer, fun _ => hclaimed⟩
      · rw [hmerged.results hboth hbetween, results_ofResults]
        exact hmerge

/-- Ending the workflow as its task says pays what is owed. -/
theorem finish_keeps {status : Workflow.Status} (hfinal : Final origin scene workflow task)
    (hverdict : status = .complete ∧ task.bothSucceeded = true ∧
        (scene.Sunk → scene.task.mergeClaimed = true) ∨
      status = .aborted ∧ task.bothSucceeded = false) :
    (Program.finish workflow.id status).Keeps (merging o origin) share scene
      fun _ learnt _ => learnt.owes = false := by
  rw [finish, keeps_bind, Program.store, keeps_ask]
  rintro met ⟨hmet, hlater⟩ env answer reached _
  have hid : workflow.id = origin.workflow.id :=
    Workflow.id_of_fixed hfinal.counted.fixed
  have hmerged := hfinal.later hlater
  refine ⟨{ share with owes := false }, ⟨hid.trans hmet.workflow_id.symm,
    hmerged.counted.progress hmet, ?_, rfl⟩, rfl⟩
  rcases hverdict with ⟨hstatus, hboth, hsunk⟩ | ⟨hstatus, hboth⟩
  · refine Or.inl ⟨hstatus, hmerged.bothSucceeded.trans hboth, ?_⟩
    unfold Scene.Sunk at hsunk ⊢
    rw [hfinal.results hboth hlater]
    exact fun hall => hlater.claimed (hsunk hall)
  · exact Or.inr ⟨hstatus, hmerged.bothTerminal, hmerged.bothSucceeded.trans hboth⟩

/-- Concluding with both runs ended pays what is owed. -/
theorem conclude_keeps (hvalid : o.thresholds.isValid = true)
    (hfinal : Final origin scene workflow task) :
    (o.conclude workflow task).Keeps (merging o origin) share scene
      fun _ learnt _ => learnt.owes = false := by
  unfold conclude
  rw [hfinal.read.kind]
  dsimp only
  split
  · rename_i hboth
    rw [keeps_bind]
    apply keeps_mono (mergeOnce_keeps hvalid hfinal hboth)
    rintro _ learnt reached ⟨_, hmerged, ⟨won, rfl⟩, hsunk⟩
    exact finish_keeps hmerged (Or.inl ⟨rfl, hboth, hsunk⟩)
  · rename_i hboth
    rw [if_pos hfinal.terminal]
    exact finish_keeps hfinal (Or.inr ⟨rfl, Bool.eq_false_iff.mpr hboth⟩)

/-- While an engine is awaited there is nothing to conclude. -/
theorem conclude_keeps_of_awaited (hread : Read origin task) (hawaited : task.bothTerminal = false)
    (hpaid : share.owes = false) :
    (o.conclude workflow task).Keeps (merging o origin) share scene
      fun _ learnt _ => learnt.owes = false := by
  have hboth : task.bothSucceeded = false := by
    rw [Bool.eq_false_iff]
    intro hboth
    obtain ⟨hsa, hml⟩ := bothSucceeded_iff.mp hboth
    simp [Task.bothTerminal, hsa, hml, RunStatus.isTerminal] at hawaited
  unfold conclude
  rw [hread.kind]
  dsimp only
  rw [if_neg (by simp [hboth]), if_neg (by simp [hawaited])]
  exact hpaid

/-- Settling pays what is owed. -/
theorem settle_keeps (hvalid : o.thresholds.isValid = true)
    (hcopied : Copied origin scene workflow) :
    (o.settle workflow origin.task.id).Keeps (merging o origin) share scene
      fun _ learnt _ => learnt.owes = false := by
  unfold settle
  rw [keeps_bind]
  apply keeps_mono (advance_keeps hcopied)
  rintro _ known between ⟨hknown, counted, rfl, hcounted⟩
  rw [hknown]
  change Keeps _ (_ >>= _) _ _ _
  rw [keeps_bind, Program.store, keeps_ask]
  rintro met ⟨hmet, hlater⟩ env answer reached ⟨hanswer, hreached⟩
  have hsame : reached = met := hreached
  have hfound : answer = some met.task := hanswer.1 hmet.id.symm
  have hskip : ∀ outcome (paid : Share) final, paid.owes = false →
      Follows (merging o origin)
        (fun _ : Unit => if counted.isFullyProgressed = true then pure () else o.chain counted)
        (fun _ learnt _ => learnt.owes = false) outcome paid final := by
    intro outcome paid final hpaid
    cases outcome with
    | error e => exact hpaid
    | ok _ =>
      unfold Follows
      rw [if_pos hcounted.full]
      exact hpaid
  rw [hsame, hfound]
  unfold Follows
  dsimp only
  cases hterminal : met.task.bothTerminal with
  | true =>
    have hfinal : Final origin met counted met.task :=
      ⟨hcounted.later hlater, hmet.read, hterminal, rfl, rfl, fun h => h⟩
    refine ⟨share, Or.inl rfl, ?_⟩
    rw [keeps_bind]
    exact keeps_mono (conclude_keeps hvalid hfinal) hskip
  | false =>
    refine ⟨{ share with owes := false }, Or.inr ⟨hterminal, rfl⟩, ?_⟩
    rw [keeps_bind]
    exact keeps_mono (conclude_keeps_of_awaited hmet.read hterminal rfl) hskip

/-- Settling once more pays what is owed, and owes nothing where it is not due. -/
theorem resettle_keeps (hvalid : o.thresholds.isValid = true)
    (hcopied : Copied origin scene workflow) (hid : task.id = origin.task.id)
    (hpaid : share.owes = false) :
    (o.resettle workflow task).Keeps (merging o origin) share scene
      fun _ learnt _ => learnt.owes = false := by
  unfold resettle
  split
  · rw [hid]
    exact settle_keeps hvalid hcopied
  · exact hpaid

/-! ### The answer of the machine-learning engine -/

/-- The records that a message is about are read one after the other. -/
theorem resolve_keeps (hlinked : origin.workflow.taskId = origin.task.id) :
    (resolve origin.workflow.id origin.task.id).Keeps (merging o origin) share scene
      fun outcome learnt reached => learnt = share ∧ Lawful o origin reached ∧
        ∃ workflow, outcome = .ok (some (workflow, reached.task)) ∧
          Copied origin reached workflow := by
  unfold resolve
  rw [keeps_bind]
  refine read_keeps (fun _ => rfl) (fun _ _ => rfl) ?_
  intro between hbetween _ _ answer hanswer
  rw [hanswer hbetween.workflow_id.symm]
  change Keeps _ (_ >>= _) _ _ _
  rw [keeps_bind]
  refine read_keeps (fun _ => Or.inl rfl) (fun _ _ => rfl) ?_
  intro met hmet hlater _ found hfound
  rw [hfound.1 hmet.id.symm]
  unfold Follows
  dsimp only
  have htaskId : between.workflow.taskId = met.task.id := by
    rw [hmet.id, ← hlinked]
    exact Workflow.taskId_of_fixed hbetween.fixed
  rw [if_pos htaskId]
  exact ⟨rfl, hmet, between.workflow, rfl, hbetween.copied.later hlater⟩

/-- A run that has neither ended nor yet to start is running. -/
theorem running_of_awaited {status : RunStatus} (hstarted : status ≠ .pending)
    (hawaited : status.isTerminal ≠ true) : status = .running := by
  cases status with
  | pending => exact absurd rfl hstarted
  | running => rfl
  | success | exception => exact absurd rfl hawaited

/-- Of the deliveries that end a run, the one that comes first owes a settlement. -/
theorem moveMl_keeps (hcopied : Copied origin scene workflow) {next : MlRun}
    (hterminal : next.status.isTerminal = true)
    (hsuccess : next.status = .success →
      ∃ report, next.rawResult = some report ∧ report.Probable) :
    (Program.store (.moveMl origin.task.id .running next)).Keeps (merging o origin) share scene
      fun outcome learnt reached => ∃ won, outcome = .ok won ∧ Copied origin reached workflow ∧
        (won = false → learnt = share) := by
  rintro met ⟨hmet, hlater⟩ env won reached ⟨hwon, hreached⟩
  have hid := hmet.id.symm
  have hanswer : won = (met.task.withMl? .running next env.now).isSome := hwon hid
  rw [Scene.after_taskChange (by rw [hid]; rfl)] at hreached
  refine ⟨_, ⟨hid, rfl, hterminal, hsuccess, rfl⟩, won, rfl, ?_, ?_⟩
  · apply (hcopied.later hlater).kept
    rw [hreached]
  · intro hlost
    have hother : met.task.ml.status ≠ .running := by
      intro hrunning
      simp [hanswer, Task.withMl?, hrunning] at hlost
    rw [if_neg hother]

/-- A delivery that has ended its run settles; one that came second owes nothing. -/
theorem onMlFinished_keeps (hvalid : o.thresholds.isValid = true)
    (hlinked : origin.workflow.taskId = origin.task.id) {message : MlFinished}
    (hworkflow : message.workflowId = origin.workflow.id)
    (htask : message.taskId = origin.task.id)
    (hprobable : message.success = true →
      ∃ report, message.result = some report ∧ report.Probable)
    (hpaid : share.owes = false) :
    (o.onMlFinished message).Keeps (merging o origin) share scene
      fun _ learnt _ => learnt.owes = false := by
  unfold onMlFinished
  rw [hworkflow, htask, keeps_bind]
  apply keeps_mono (resolve_keeps hlinked)
  rintro _ known met ⟨hknown, hmet, workflow, rfl, hcopied⟩
  rw [hknown]
  have hid := hmet.id
  have hstarted := hmet.ml
  unfold Follows
  dsimp only
  split
  · exact hpaid
  split
  · exact resettle_keeps hvalid hcopied hid hpaid
  rename_i hawaited
  have hrunning := running_of_awaited hstarted hawaited
  generalize hraw : (if message.success = true then message.result else none) = rawResult
  rw [keeps_bind]
  apply clock_keeps
  intro between _ hbetween moment
  unfold Follows
  dsimp only
  split
  · exact hpaid
  · rename_i next hnext
    obtain ⟨_, hfinished⟩ := MlRun.finished_eq_ok hnext
    rw [hrunning, hid, keeps_bind]
    apply keeps_mono (moveMl_keeps (hcopied.later hbetween) ?_ ?_)
    · rintro _ learnt reached ⟨won, rfl, hcopied, hlost⟩
      cases won with
      | true => exact settle_keeps hvalid hcopied
      | false =>
        rw [hlost rfl]
        exact hpaid
    · rw [hfinished]
      exact RunStatus.ofSuccess_isTerminal message.success
    · intro hsuccess
      rw [hfinished] at hsuccess ⊢
      have htrue : message.success = true := by
        rw [← Bool.not_eq_false]
        intro hfalse
        simp [RunStatus.ofSuccess, hfalse] at hsuccess
      rw [← hraw, if_pos htrue]
      exact hprobable htrue

/-! ### The answer of the static analysis -/

/-- What a delivery stores has the facades of its paths. -/
theorem storedReports_regular {taskId : Uuid} {first : Nat}
    {rules : List (String × SaRuleResult)}
    (hbounded : ∀ rule ∈ rules, ∀ finding ∈ rule.2.findings, finding.Bounded) :
    ∀ report ∈ storedReports taskId first rules, ∀ finding ∈ report.findings,
      finding.Regular := by
  intro report member stored hstored
  obtain ⟨rule, hrule, finding, hfinding, id, rfl⟩ := mem_storedReports member hstored
  exact ⟨rfl, hbounded rule hrule finding hfinding⟩

def Unused (scene : Scene) (ids : List Uuid) : Prop :=
  ∀ id ∈ ids, (scene.groups.filter fun group => group.id = id) = []

theorem Unused.later (h : Unused scene own) (hlater : Later own scene met) : Unused met own := by
  intro id hid
  rw [(hlater.same id hid).1]
  exact h id hid

/-- Numbers that are taken are unused, and the delivery's own from then on. -/
theorem reserve_keeps {count : Nat} {post : Except ServiceError Nat → Share → Scene → Prop}
    (h : ∀ first reached, Unused reached (numbered first count) →
      (∀ workflow, Copied origin scene workflow → Copied origin reached workflow) →
        post (.ok first) { share with own := numbered first count } reached) :
    (Program.reserve count).Keeps (merging o origin) share scene post := by
  rintro met ⟨hmet, hlater⟩ env first reached ⟨hfirst, hreached⟩
  refine ⟨{ share with own := numbered met.nextNumber count }, rfl, ?_⟩
  rw [← hfirst]
  apply h
  · intro id hid
    obtain ⟨n, hn, _, rfl⟩ := mem_numbered.mp hid
    rw [hreached, List.filter_eq_nil_iff]
    intro group member
    have hother := hmet.numbered group member n (hfirst ▸ hn)
    simpa using hother
  · intro workflow hcopied
    apply (hcopied.later hlater).kept
    rw [hreached]

/-- The reports of a delivery are kept from when it has stored them. -/
theorem insertGroups_keeps (hcopied : Copied origin scene workflow) {reports : List GroupReport}
    (hunused : Unused scene share.own)
    (hids : reports.flatMap GroupReport.ids = share.own)
    (hdistinct : share.own.Nodup)
    (hown : ∀ report ∈ reports, report.group.taskId = origin.task.id ∧
      report.group.findingIds = report.findings.map Finding.id)
    (hregular : ∀ report ∈ reports, ∀ finding ∈ report.findings, finding.Regular) :
    (Program.storeOr (.insertGroups origin.task.id reports)).Keeps (merging o origin) share scene
      fun outcome learnt reached => outcome = .ok () ∧ learnt = share ∧
        Copied origin reached workflow ∧ reached.task.id = origin.task.id ∧
          reached.Recorded (reports.map fun report => report.group.id) reports := by
  rw [storeOr, keeps_bind, keeps_ask]
  rintro met ⟨hmet, hlater⟩ env answer reached ⟨hanswer, hreached⟩
  have hreports : Store.ownReports origin.task.id reports = true := by
    apply List.all_eq_true.mpr
    intro report member
    simpa using (hown report member).1
  rw [hanswer hreports, hreached]
  refine ⟨share, ⟨?_, fun report member => (hown report member).2, rfl⟩, rfl, rfl, ?_, hmet.id, ?_⟩
  · rw [hids]
    exact fun _ hid => hid
  · exact (hcopied.later hlater).kept rfl
  · rw [← hids] at hdistinct
    have hnew : ∀ report ∈ reports,
        (met.groups.filter fun group => group.id = report.group.id) = [] := by
      intro report member
      apply hunused.later hlater
      rw [← hids]
      exact List.mem_flatMap.mpr ⟨report, member, List.mem_cons_self⟩
    constructor
    · rfl
    · exact (Scene.groupIds_sublist reports).nodup hdistinct
    · exact Scene.holds_insertGroups hmet.id.symm hown hdistinct hnew
    · exact hregular

/-- Of the deliveries that end the static analysis, the one that comes first gives its reports
away and owes a settlement. -/
theorem moveSa_keeps (hcopied : Copied origin scene workflow)
    (hid : scene.task.id = origin.task.id) {next : SaRun} {reports : List GroupReport}
    (hterminal : next.status.isTerminal = true)
    (hrecorded : scene.Recorded next.resultIds reports)
    (hown : reports.flatMap GroupReport.ids = share.own) :
    (Program.store (.moveSa origin.task.id .running next)).Keeps (merging o origin) share scene
      fun outcome learnt reached => ∃ won, outcome = .ok won ∧ Copied origin reached workflow ∧
        (won = false → learnt = share) := by
  rintro met ⟨hmet, hlater⟩ env won reached ⟨hwon, hreached⟩
  have hsame := hmet.id.symm
  have hanswer : won = (met.task.withSa? .running next env.now).isSome := hwon hsame
  have hkept : met.Recorded next.resultIds reports := by
    apply hrecorded.kept (hmet.id.trans hid.symm)
    rw [hown]
    exact hlater.same
  rw [Scene.after_taskChange (by rw [hsame]; rfl)] at hreached
  refine ⟨_, ⟨hsame, rfl, hterminal, ?_, rfl⟩, won, rfl, ?_, ?_⟩
  · intro _
    refine ⟨reports, hkept, ?_⟩
    rw [hown]
    exact fun _ hid => hid
  · apply (hcopied.later hlater).kept
    rw [hreached]
  · intro hlost
    have hother : met.task.sa.status ≠ .running := by
      intro hrunning
      simp [hanswer, Task.withSa?, hrunning] at hlost
    rw [if_neg hother]

/-- A delivery that came second takes its reports away again. -/
theorem deleteGroups_keeps {ids : List Uuid} (hown : ∀ id ∈ ids, id ∈ share.own)
    (hpaid : share.owes = false) :
    (Program.store (.deleteGroups origin.task.id ids)).Keeps (merging o origin) share scene
      fun _ learnt _ => learnt.owes = false := by
  rintro met _ env answer reached _
  exact ⟨share, ⟨hown, rfl⟩, hpaid⟩

/-- Whoever comes first settles, and whoever comes second takes its reports away. -/
theorem endSa_keeps (hvalid : o.thresholds.isValid = true) (hcopied : Copied origin scene workflow)
    (hid : scene.task.id = origin.task.id) (htask : task.id = origin.task.id)
    (hrunning : task.sa.status = .running) {next : SaRun} {reports : List GroupReport}
    (hterminal : next.status.isTerminal = true)
    (hresults : next.resultIds = reports.map fun report => report.group.id)
    (hrecorded : scene.Recorded (reports.map fun report => report.group.id) reports)
    (hown : reports.flatMap GroupReport.ids = share.own) (hpaid : share.owes = false) :
    (o.endSa workflow task next
      (discardGroups task.id (reports.map fun report => report.group.id))).Keeps
        (merging o origin) share scene fun _ learnt _ => learnt.owes = false := by
  unfold endSa
  rw [htask, hrunning, keeps_bind]
  apply keeps_mono (moveSa_keeps hcopied hid hterminal (hresults ▸ hrecorded) hown)
  rintro _ learnt reached ⟨won, rfl, hcopied, hlost⟩
  cases won with
  | true => exact settle_keeps hvalid hcopied
  | false =>
    rw [hlost rfl]
    unfold Follows discardGroups
    dsimp only
    rw [if_neg Bool.false_ne_true]
    split
    · refine deleteGroups_keeps ?_ hpaid
      intro id hid
      rw [← hown]
      exact (Scene.groupIds_sublist reports).subset hid
    · exact hpaid

theorem acceptFindings_keeps (hvalid : o.thresholds.isValid = true)
    (hcopied : Copied origin scene workflow) (htask : task.id = origin.task.id)
    (hrunning : task.sa.status = .running) {message : SaFinished}
    (hbounded : ∀ rule ∈ message.rules, ∀ finding ∈ rule.2.findings, finding.Bounded)
    (hpaid : share.owes = false) :
    (o.acceptFindings workflow task message).Keeps (merging o origin) share scene
      fun _ learnt _ => learnt.owes = false := by
  unfold acceptFindings
  dsimp only
  rw [keeps_bind]
  apply reserve_keeps
  intro first taken hunused hcopies
  unfold Follows
  dsimp only
  rw [keeps_bind]
  apply clock_keeps
  intro met hmet hlater moment
  unfold Follows
  dsimp only
  split
  · exact hpaid
  rename_i next hfinished
  obtain ⟨_, hnext⟩ := SaRun.finished_eq_ok hfinished
  have hterminal : next.status.isTerminal = true := by
    rw [hnext]
    exact RunStatus.ofSuccess_isTerminal message.success
  -- The reports have been stored, or there are none: either way they are the recorded ones.
  have hends : ∀ scene : Scene, Copied origin scene workflow → scene.task.id = origin.task.id →
      scene.Recorded ((storedReports task.id first message.rules).map fun report =>
        report.group.id) (storedReports task.id first message.rules) →
      (o.endSa workflow task next (discardGroups task.id
        ((storedReports task.id first message.rules).map fun report =>
          report.group.id))).Keeps (merging o origin)
            { share with own := numbered first (recordCount message.rules) } scene
              fun _ learnt _ => learnt.owes = false :=
    fun scene hcopied hid hrecorded => endSa_keeps hvalid hcopied hid htask hrunning hterminal
      (by rw [hnext]) hrecorded (storedReports_ids task.id first message.rules) hpaid
  have hcopied := (hcopies workflow hcopied).later hlater
  split
  · have hstores : Keeps (merging o origin) _
        { share with own := numbered first (recordCount message.rules) } met _ :=
      insertGroups_keeps hcopied (hunused.later hlater)
        (storedReports_ids origin.task.id first message.rules) (numbered_nodup _ _)
        (fun _ => storedReports_own) (storedReports_regular hbounded)
    rw [← htask] at hstores
    rw [keeps_bind]
    apply keeps_mono hstores
    rintro _ learnt reached ⟨rfl, rfl, hcopied, hid, hrecorded⟩
    exact hends reached hcopied (hid.trans htask) hrecorded
  · rename_i hnone
    have hempty : storedReports task.id first message.rules = [] := by simpa using hnone
    apply hends met hcopied hmet.id
    rw [hempty]
    exact ⟨rfl, List.nodup_nil, nofun, nofun⟩

theorem onSaFinished_keeps (hvalid : o.thresholds.isValid = true)
    (hlinked : origin.workflow.taskId = origin.task.id) {message : SaFinished}
    (hworkflow : message.workflowId = origin.workflow.id)
    (htask : message.taskId = origin.task.id)
    (hbounded : ∀ rule ∈ message.rules, ∀ finding ∈ rule.2.findings, finding.Bounded)
    (hpaid : share.owes = false) :
    (o.onSaFinished message).Keeps (merging o origin) share scene
      fun _ learnt _ => learnt.owes = false := by
  unfold onSaFinished
  rw [hworkflow, htask, keeps_bind]
  apply keeps_mono (resolve_keeps hlinked)
  rintro _ known met ⟨hknown, hmet, workflow, rfl, hcopied⟩
  rw [hknown]
  unfold Follows
  dsimp only
  split
  · exact hpaid
  split
  · exact resettle_keeps hvalid hcopied hmet.id hpaid
  · rename_i hawaited
    have hrunning := running_of_awaited hmet.sa hawaited
    exact acceptFindings_keeps hvalid hcopied hmet.id hrunning hbounded hpaid

end ScanFlow.Orchestrator

namespace ScanFlow

def Completion.IsAbout (workflowId taskId : Uuid) : Completion → Prop
  | .compile _ => False
  | .sa message => message.workflowId = workflowId ∧ message.taskId = taskId
  | .ml message => message.workflowId = workflowId ∧ message.taskId = taskId

/-- The message is such an answer, and has been accepted from some queue. -/
structure Completion.Answers (message : Completion) (workflowId taskId : Uuid) : Prop where
  accepted : ∃ queue body, Completion.parse queue body = .ok message
  about : message.IsAbout workflowId taskId

/-- Every delivery of an engine's answer ends without owing anything. -/
theorem Orchestrator.process_keeps {o : Orchestrator} {origin scene : Scene} {share : Share}
    (hvalid : o.thresholds.isValid = true) (hlinked : origin.workflow.taskId = origin.task.id)
    {message : Completion} (hanswers : message.Answers origin.workflow.id origin.task.id)
    (hpaid : share.owes = false) :
    (o.process message).Keeps (merging o origin) share scene
      fun _ learnt _ => learnt.owes = false := by
  obtain ⟨⟨queue, body, haccepted⟩, habout⟩ := hanswers
  cases message with
  | compile message => exact habout.elim
  | sa message =>
    apply onSaFinished_keeps hvalid hlinked habout.1 habout.2 _ hpaid
    intro rule member
    unfold SaFinished.rules at member
    split at member
    · cases hresult : message.result with
      | none =>
        rw [hresult] at member
        cases member
      | some result =>
        rw [hresult] at member
        exact SaFinished.bounded_of_accepted haccepted result hresult rule member
    · cases member
  | ml message =>
    exact onMlFinished_keeps hvalid hlinked habout.1 habout.2
      (MlFinished.probable_of_accepted haccepted) hpaid

end ScanFlow
