import ScanFlow.Proofs.Race.Holdings
import ScanFlow.Proofs.Race.MergeOnce
import ScanFlow.Proofs.Record.Confined
import ScanFlow.Proofs.Record.Report
import ScanFlow.Proofs.Record.Stocked

/-!
One report for all the answers of the static analysis.

Any number of answers may be delivered at once while the static analysis of a task is awaited, and
their calls may come in any order. Just one delivery ends the analysis. Once it has, no other call
touches what it has stored, and whoever comes too late has taken its own reports away before it is
done. So what is stored in the end are the reports of the one answer that was taken.
-/

namespace ScanFlow

namespace Orchestrator

open Program

variable {o : Orchestrator} {origin scene : Scene} {run : SaRun} {α β : Type}

/-! ### After the static analysis has ended -/

structure Closed (origin : Scene) (run : SaRun) (scene : Scene) : Prop where
  id : scene.task.id = origin.task.id
  sa : scene.task.sa = run

/-- A call that leaves the run of a task alone, once it is this one and has ended. -/
def Sparing (taskId : Uuid) (run : SaRun) (call : Call α) : Prop :=
  match call with
  | .reserve _ => False
  | .store (.moveSa _ expected _) => expected.isTerminal = false
  | .store (.bindAnalysis id binding) => id = taskId → binding.sa = run
  | .store operation => operation.Aside
  | _ => True

/-- Once the static analysis has ended with this run, the program leaves it alone, and what is
stored of it. -/
def Leaves (origin : Scene) (run : SaRun) (program : Program α) : Prop :=
  ∀ holding scene, Closed origin run scene →
    program.Keeps (contesting origin) holding scene
      fun _ learnt reached => learnt = holding ∧ Closed origin run reached

theorem leaves_bind {program : Program β} {next : β → Program α}
    (hfirst : Leaves origin run program) (hnext : ∀ b, Leaves origin run (next b)) :
    Leaves origin run (program >>= next) := by
  intro holding scene hclosed
  rw [keeps_bind]
  apply keeps_mono (hfirst holding scene hclosed)
  rintro outcome _ reached ⟨rfl, hreached⟩
  cases outcome with
  | ok b => exact hnext b _ reached hreached
  | error e => exact ⟨rfl, hreached⟩

theorem leaves_attempt {program : Program α} (h : Leaves origin run program) :
    Leaves origin run program.attempt := by
  intro holding scene hclosed
  rw [keeps_attempt]
  exact h holding scene hclosed

section Ended

variable (hended : run.status.isTerminal = true)
include hended

/-- What others do leaves the run as it is. -/
theorem Closed.met {holding : Holding} {met : Scene} (h : Closed origin run scene)
    (hrely : (contesting origin).rely holding scene met) : Closed origin run met := by
  obtain ⟨hmet, _, hsa⟩ := hrely
  refine ⟨hmet.id, (hsa ?_).trans h.sa⟩
  rw [h.sa]
  exact hended

theorem leaves_of_only {program : Program α} (honly : program.Only (Sparing origin.task.id run)) :
    Leaves origin run program := by
  intro holding scene hclosed
  refine keeps_of_only honly hclosed (fun since met hsince hrely => hsince.met hended hrely) ?_
  intro β call env met answer reached hspares hmet hmoves
  have hterminal : met.task.sa.status.isTerminal = true := by
    rw [hmet.sa]
    exact hended
  have hkept : ∀ {next : Scene}, Undisturbed met next → Closed origin run next :=
    fun h => ⟨h.id.trans hmet.id, h.sa.trans hmet.sa⟩
  cases call with
  | store operation =>
    obtain ⟨_, rfl⟩ := hmoves
    cases operation with
    | moveSa id expected next =>
      exact ⟨⟨hspares, Or.inr ⟨hterminal, Or.inl rfl⟩⟩,
        hkept (undisturbed_moveSa hspares hterminal)⟩
    | bindAnalysis id binding =>
      have hbinds : id = met.task.id → binding.sa = met.task.sa := by
        intro hid
        rw [hmet.sa]
        exact hspares (hid.trans hmet.id)
      exact ⟨⟨hterminal, hbinds, rfl⟩, hkept (undisturbed_bindAnalysis hterminal hbinds)⟩
    | insertGroups | deleteGroups | setArtifact | setAudit => exact hspares.elim
    | _ => exact ⟨⟨hspares, Or.inl rfl⟩, hkept (undisturbed_aside hspares)⟩
  | reserve count => exact hspares.elim
  | publish queue payload =>
    rcases hmoves with rfl | rfl
    · exact ⟨rfl, hmet⟩
    · exact ⟨rfl, hmet.id, hmet.sa⟩
  | clock | blobExists | blobUrl =>
    cases hmoves
    exact ⟨rfl, hmet⟩

/-- A dispatch starts no run that has ended. -/
theorem requestAnalysis_spares (workflow : Workflow) {task : Task} (kind : Task.Kind)
    (snapshot : TemplateSnapshot) {taskId : Uuid} (hread : task.id = taskId → task.sa = run) :
    (o.requestAnalysis workflow task kind snapshot).Only (Sparing taskId run) := by
  apply requestAnalysis_only
  · trivial
  · exact fun _ _ => trivial
  · intro sa ml hbinds hid
    have hsame := hread hid
    exact (hbinds.sa_of_terminal (hsame ▸ hended)).trans hsame
  · exact fun _ _ => trivial

theorem dispatchAnalysis_leaves (workflow : Workflow) :
    Leaves origin run (o.dispatchAnalysis workflow) := by
  intro holding scene hclosed
  unfold dispatchAnalysis
  rw [keeps_bind, Program.task, require, keeps_bind, Program.store, keeps_ask]
  rintro met hrely env answer reached ⟨⟨hanswer, hnamed⟩, hreached⟩
  have hmet := hclosed.met hended hrely
  have hsame : reached = met := hreached
  rw [hsame]
  refine ⟨holding, ⟨trivial, Or.inl rfl⟩, ?_⟩
  cases answer with
  | none => exact ⟨rfl, hmet⟩
  | some task =>
    -- If it is the task that has been read, its run is the one with which it has ended.
    have hread : task.id = origin.task.id → task.sa = run := by
      intro hid
      have hcopy := hanswer ((hnamed task rfl).symm.trans (hid.trans hmet.id.symm))
      rw [Option.some.inj hcopy, hmet.sa]
    refine leaves_of_only hended ?_ holding met hmet
    dsimp only
    split
    · trivial
    split
    · trivial
    refine only_bind (captureRules_only workflow (fun _ => trivial) (fun _ => trivial) trivial)
      fun captured => ?_
    cases captured with
    | none =>
      exact abortWithoutRules_only workflow task _ trivial
        (fun _ _ hfinished => RunStatus.open_of_canBecome (SaRun.finished_eq_ok hfinished).1)
        (fun _ _ _ => trivial) trivial
    | some snapshot => exact requestAnalysis_spares hended workflow _ snapshot hread

theorem dispatch_leaves (stage : Stage) (workflow : Workflow) :
    Leaves origin run (o.dispatch stage workflow) := by
  cases stage with
  | compile =>
    apply leaves_of_only hended
    refine only_bind (only_require trivial) fun code => ?_
    refine only_bind (only_require trivial) fun source => ?_
    refine only_bind (only_blobUrl trivial) fun url => ?_
    exact only_bind (only_sendRequest trivial) fun _ => trivial
  | analysis => exact dispatchAnalysis_leaves hended workflow

theorem chain_leaves (workflow : Workflow) : Leaves origin run (o.chain workflow) := by
  have hnothing : Leaves origin run (pure () : Program Unit) :=
    fun _ _ hclosed => ⟨rfl, hclosed⟩
  unfold chain
  split
  · exact hnothing
  split
  · exact hnothing
  refine leaves_bind (leaves_attempt (dispatch_leaves hended _ workflow)) fun outcome => ?_
  cases outcome with
  | ok _ => exact hnothing
  | error e => exact leaves_of_only hended (only_bind (only_ask trivial) fun _ => trivial)

/-- Settling a workflow leaves the findings of its task alone. -/
theorem settle_leaves (workflow : Workflow) (taskId : Uuid) :
    Leaves origin run (o.settle workflow taskId) := by
  unfold settle
  refine leaves_bind (leaves_of_only hended
    (advance_only workflow trivial (fun _ => trivial) trivial)) fun current => ?_
  refine leaves_bind (leaves_of_only hended (only_ask trivial)) fun found => ?_
  cases found with
  | none => exact fun _ _ hclosed => ⟨rfl, hclosed⟩
  | some task =>
    refine leaves_bind (leaves_of_only hended (conclude_only current task (fun _ => trivial)
      trivial (fun _ _ => trivial) fun _ => trivial)) fun _ => ?_
    split
    · exact fun _ _ hclosed => ⟨rfl, hclosed⟩
    · exact chain_leaves hended current

theorem resettle_leaves (workflow : Workflow) (task : Task) :
    Leaves origin run (o.resettle workflow task) := by
  unfold resettle
  split
  · exact settle_leaves hended workflow task.id
  · exact fun _ _ hclosed => ⟨rfl, hclosed⟩

end Ended

/-! ### Deliveries -/

variable {holding : Holding} {message : SaFinished}

/-- The records that an answer is about are read one after the other. Where the run has ended, the
answer has come too late. -/
theorem resolve_answers (hlinked : origin.workflow.taskId = origin.task.id)
    (hwaiting : holding.fate = .waiting) :
    (resolve origin.workflow.id origin.task.id).Keeps (contesting origin) holding scene
      fun outcome learnt reached => Contested origin reached ∧
        (∃ workflow, outcome = .ok (some (workflow, reached.task))) ∧
        (reached.task.sa.status.isTerminal = false ∧ learnt = holding ∨
          reached.task.sa.status.isTerminal = true ∧ learnt = { holding with fate := .late }) := by
  unfold resolve
  rw [keeps_bind, Program.store, keeps_ask]
  rintro between ⟨hbetween, _, _⟩ env answer reached ⟨hanswer, hreached⟩
  have hsame : reached = between := hreached
  have hid : between.workflow.id = origin.workflow.id := Workflow.id_of_fixed hbetween.fixed
  rw [hanswer hid.symm, hsame]
  refine ⟨holding, ⟨trivial, Or.inl rfl⟩, ?_⟩
  change Keeps _ (_ >>= _) _ _ _
  rw [keeps_bind, Program.store, keeps_ask]
  rintro met ⟨hmet, _, _⟩ env found reached ⟨⟨hfound, _⟩, hreached⟩
  have hsame : reached = met := hreached
  have htaskId : between.workflow.taskId = met.task.id := by
    rw [hmet.id, ← hlinked]
    exact Workflow.taskId_of_fixed hbetween.fixed
  rw [hfound hmet.id.symm, hsame]
  cases hterminal : met.task.sa.status.isTerminal with
  | false =>
    refine ⟨holding, ⟨trivial, Or.inl rfl⟩, ?_⟩
    unfold Follows
    dsimp only
    rw [if_pos htaskId]
    exact ⟨hmet, ⟨_, rfl⟩, Or.inl ⟨hterminal, rfl⟩⟩
  | true =>
    refine ⟨{ holding with fate := .late }, ⟨trivial, Or.inr ⟨hterminal, hwaiting, rfl⟩⟩, ?_⟩
    unfold Follows
    dsimp only
    rw [if_pos htaskId]
    exact ⟨hmet, ⟨_, rfl⟩, Or.inr ⟨hterminal, rfl⟩⟩

/-- A delivery that has come too late takes away what it holds. -/
theorem discardGroups_answers (hlate : holding.fate = .late) :
    (discardGroups origin.task.id (holding.held.map fun report => report.group.id)).Keeps
      (contesting origin) holding scene fun _ learnt _ => learnt.Done := by
  unfold discardGroups
  split
  · rintro met ⟨hmet, _, _⟩ env answer reached _
    exact ⟨{ holding with held := [] }, ⟨hmet.id.symm, hlate, rfl, rfl⟩, Or.inr ⟨hlate, rfl⟩⟩
  · rename_i hempty
    refine Or.inr ⟨hlate, ?_⟩
    simpa using hempty

/-- Of the deliveries that end the static analysis, the one that comes first keeps its reports in
store. All others take theirs away again. -/
theorem endSa_answers {workflow : Workflow} {task : Task} (htask : task.id = origin.task.id)
    (hrunning : task.sa.status = .running) (hwaiting : holding.fate = .waiting)
    (hreported : ∃ first, holding.held = storedReports origin.task.id first holding.answer.rules)
    {next : SaRun} (hstatus : next.status = .ofSuccess holding.answer.success)
    (hresults : next.resultIds = holding.held.map fun report => report.group.id) :
    (o.endSa workflow task next
      (discardGroups task.id (holding.held.map fun report => report.group.id))).Keeps
        (contesting origin) holding scene fun _ learnt _ => learnt.Done := by
  unfold endSa
  rw [keeps_bind, htask, hrunning, Program.store, keeps_ask]
  rintro met ⟨hmet, _, _⟩ env moved reached ⟨hmoved, hreached⟩
  have hanswer := hmoved hmet.id.symm
  rw [Scene.after_taskChange (by rw [hmet.id]; rfl)] at hreached
  cases hterminal : met.task.sa.status.isTerminal with
  | false =>
    have hopen := (hmet.awaited hterminal).1
    have hnext : met.task.withSa? .running next env.now = some
        { met.task with sa := next, weaknessCount := next.weaknessCount, updatedAt := env.now } :=
      if_pos hopen
    rw [hnext] at hanswer hreached
    have hclosed : Closed origin next reached := by
      rw [hreached]
      exact ⟨hmet.id, rfl⟩
    have hended : next.status.isTerminal = true := by
      rw [hstatus]
      exact RunStatus.ofSuccess_isTerminal holding.answer.success
    refine ⟨{ holding with fate := .taken }, ⟨rfl, Or.inl ⟨hmet.id.symm, hopen, hwaiting, hstatus,
      hresults, hmet.id ▸ hreported, rfl⟩⟩, ?_⟩
    rw [hanswer]
    apply keeps_mono (settle_leaves hended workflow origin.task.id _ reached hclosed)
    rintro _ _ _ ⟨rfl, _⟩
    exact Or.inl rfl
  | true =>
    have hnone : met.task.withSa? .running next env.now = none := by
      refine if_neg fun hopen => ?_
      rw [hopen] at hterminal
      cases hterminal
    rw [hnone] at hanswer
    refine ⟨{ holding with fate := .late },
      ⟨rfl, Or.inr ⟨hterminal, Or.inr ⟨hterminal, hwaiting, rfl⟩⟩⟩, ?_⟩
    have hlate : Holding.fate { holding with fate := .late } = .late := rfl
    rw [hanswer]
    exact discardGroups_answers hlate

/-- An answer that is awaited is taken, or all that is stored of it is taken away. -/
theorem acceptFindings_answers {workflow : Workflow} {task : Task}
    (htask : task.id = origin.task.id) (hrunning : task.sa.status = .running) :
    (o.acceptFindings workflow task message).Keeps (contesting origin)
      (.start message) scene fun _ learnt _ => learnt.Done := by
  unfold acceptFindings
  dsimp only
  rw [keeps_bind, Program.reserve, keeps_ask]
  rintro before _ _ first taken ⟨rfl, _⟩
  refine ⟨⟨message, numbered before.nextNumber (recordCount message.rules), [], .waiting⟩,
    ⟨rfl, rfl⟩, ?_⟩
  change Keeps _ (_ >>= _) _ _ _
  rw [keeps_bind, Program.clock, keeps_ask]
  rintro between _ env now noted _
  refine ⟨_, rfl, ?_⟩
  unfold Follows
  dsimp only
  split
  · rename_i e hfinished
    cases (SaRun.finished_of_running hrunning).symm.trans hfinished
  rename_i next hfinished
  obtain ⟨_, hnext⟩ := SaRun.finished_eq_ok hfinished
  have hstatus : next.status = .ofSuccess message.success := by rw [hnext]
  -- The reports have been stored, or there are none.
  have hends : ∀ (held : List GroupReport) (met : Scene),
      held = storedReports task.id before.nextNumber message.rules →
        (o.endSa workflow task next (discardGroups task.id
          ((storedReports task.id before.nextNumber message.rules).map fun report =>
            report.group.id))).Keeps (contesting origin)
              ⟨message, numbered before.nextNumber (recordCount message.rules), held, .waiting⟩ met
                fun _ learnt _ => learnt.Done := by
    rintro _ met rfl
    exact endSa_answers htask hrunning rfl ⟨_, by rw [htask]⟩ hstatus (by rw [hnext])
  split
  · rw [keeps_bind, Program.storeOr, keeps_bind, keeps_ask]
    rintro met ⟨hmet, _, _⟩ env answer reached ⟨hanswer, _⟩
    rw [hanswer (ownReports_storedReports _ _ _)]
    have hid := htask.trans hmet.id.symm
    refine ⟨⟨message, numbered before.nextNumber (recordCount message.rules),
      storedReports task.id before.nextNumber message.rules, .waiting⟩,
      ⟨hid, rfl, rfl, ⟨_, rfl, by rw [hid]⟩, rfl⟩, ?_⟩
    exact hends _ reached rfl
  · rename_i hnone
    exact hends [] noted (by simpa using hnone)

/-- Every delivery of an answer about the task ends so. -/
theorem onSaFinished_answers (hlinked : origin.workflow.taskId = origin.task.id)
    (hworkflow : message.workflowId = origin.workflow.id)
    (htask : message.taskId = origin.task.id) :
    (o.onSaFinished message).Keeps (contesting origin) (.start message) scene
      fun _ learnt _ => learnt.Done := by
  unfold onSaFinished
  rw [hworkflow, htask, keeps_bind]
  apply keeps_mono (resolve_answers hlinked rfl)
  rintro _ learnt reached ⟨hreached, ⟨workflow, rfl⟩, hfate⟩
  unfold Follows
  dsimp only
  rcases hfate with ⟨hopen, rfl⟩ | ⟨hended, rfl⟩
  · obtain ⟨hrunning, hruns⟩ := hreached.awaited hopen
    rw [if_neg (by simp [hruns]), if_neg (by simp [hopen])]
    exact acceptFindings_answers hreached.id hrunning
  · split
    · exact Or.inr ⟨rfl, rfl⟩
    · apply keeps_mono (resettle_leaves hended workflow reached.task _ reached ⟨hreached.id, rfl⟩)
      rintro _ _ _ ⟨rfl, _⟩
      exact Or.inr ⟨rfl, rfl⟩

end Orchestrator

/-! ### When all deliveries are done -/

/-- Of all groups and findings, just these reports of one task have been added. -/
structure System.AddsJust (before after : System) (taskId : Uuid) (reports : List GroupReport) :
    Prop where
  own : after.store.groupReports taskId = reports
  others : (after.store.groups.filter fun group => group.taskId ≠ taskId) =
    before.store.groups.filter fun group => group.taskId ≠ taskId
  kept : ∀ id finding, before.store.findings.get? id = some finding →
    after.store.findings.get? id = some finding
  new : ∀ id, id ∉ (reports.flatMap GroupReport.findings).map Finding.id →
    after.store.findings.get? id = before.store.findings.get? id

namespace Ledger

variable {origin reached : Scene} {answers : List SaFinished} {holdings : List Holding}
  {winner : Nat} {holding : Holding}

/-- Before any call, nothing is held. -/
theorem launch (hcontested : Contested origin origin)
    (hnone : ∀ group ∈ origin.groups, group.taskId ≠ origin.task.id)
    (answers : List SaFinished) :
    Ledger origin answers origin (answers.map Holding.start) := by
  have hstart : ∀ holding ∈ answers.map Holding.start, holding.own = [] ∧ holding.held = [] ∧
      holding.fate = .waiting := by
    intro holding member
    obtain ⟨answer, _, rfl⟩ := List.mem_map.mp member
    exact ⟨rfl, rfl, rfl⟩
  constructor
  · exact hcontested
  · exact List.length_map _
  · intro index holding hholding
    rw [List.getElem?_map, Option.map_eq_some_iff] at hholding
    obtain ⟨answer, hanswer, rfl⟩ := hholding
    exact hanswer
  · intro holding member
    obtain ⟨hown, hheld, hwaiting⟩ := hstart holding member
    constructor
    · simp [hown]
    · rw [hown, hheld]
      exact ⟨by simp, nofun⟩
    · rw [hown, hheld]
      exact ⟨nofun, nofun, nofun⟩
    · exact fun hfate => absurd hwaiting hfate
  · intro i j first second _ hfirst _ id hid
    rw [(hstart first (List.mem_of_getElem? hfirst)).1] at hid
    cases hid
  · exact fun group member htask => absurd htask (hnone group member)
  · exact fun _ => Or.inl rfl

/-- Nothing is held but by the delivery that has ended the analysis. -/
theorem held_of_owner (hdone : ∀ holding ∈ holdings, holding.Done)
    (hwinner : holdings[winner]? = some holding)
    (hlost : ∀ (other : Nat) (rival : Holding), other ≠ winner →
      holdings[other]? = some rival → rival.fate ≠ .taken) :
    ∀ owner ∈ holdings, owner = holding ∨ owner.held = [] := by
  intro owner member
  obtain ⟨position, hposition⟩ := List.mem_iff_getElem?.mp member
  by_cases hsame : position = winner
  · subst hsame
    exact Or.inl (Option.some.inj (hposition.symm.trans hwinner))
  · rcases hdone owner member with htaken | ⟨_, hheld⟩
    · exact absurd htaken (hlost position owner hsame hposition)
    · exact Or.inr hheld

/-- Whatever had a finding before has it still. -/
theorem findings_kept (h : Ledger origin answers reached holdings)
    (hcontested : Contested origin origin) {id : Uuid} {finding : Finding}
    (hfound : origin.findings.get? id = some finding) :
    reached.findings.get? id = some finding := by
  rcases h.findings id with hsame | ⟨owner, howner, hid⟩
  · rw [hsame, hfound]
  · obtain ⟨n, hfirst, _, rfl⟩ := (h.fits owner howner).taken id hid
    rw [(hcontested.unnumbered n hfirst).2] at hfound
    cases hfound

section Alone

variable (hledger : Ledger origin answers reached holdings) (member : holding ∈ holdings)
  (hothers : ∀ owner ∈ holdings, owner = holding ∨ owner.held = [])
include hledger member hothers

/-- The groups of the task are those of the reports that are held. -/
theorem stores (hdistinct : (holding.held.flatMap GroupReport.ids).Nodup) :
    reached.Stores holding.held := by
  have hfits := hledger.fits holding member
  constructor
  · rw [← hfits.bears.groups]
    apply List.filter_congr
    intro group hgroup
    rw [decide_eq_decide, hledger.contested.id]
    constructor
    · intro htask
      obtain ⟨owner, howner, hid⟩ := hledger.groups group hgroup htask
      rcases hothers owner howner with rfl | hnone
      · exact hid
      · have hbears := (hledger.fits owner howner).bears
        rw [hnone] at hbears
        obtain ⟨_, hreport, _⟩ := hbears.of_group hgroup hid
        cases hreport
    · intro hid
      obtain ⟨report, hreport, rfl⟩ := hfits.bears.of_group hgroup hid
      exact hfits.formed.taskId report hreport
  · exact fun report hreport => hfits.bears.named hfits.formed hdistinct hreport

/-- No finding is new but those of the reports that are held. -/
theorem findings_new (hcontested : Contested origin origin) {id : Uuid}
    (hnot : id ∉ (holding.held.flatMap GroupReport.findings).map Finding.id) :
    reached.findings.get? id = origin.findings.get? id := by
  rcases hledger.findings id with hsame | ⟨owner, howner, hid⟩
  · exact hsame
  · have hfits := hledger.fits owner howner
    obtain ⟨n, hfirst, _, rfl⟩ := hfits.taken id hid
    rw [hfits.bears.findings _ hid, (hcontested.unnumbered n hfirst).2, List.find?_eq_none]
    intro finding hfinding hsame
    rcases hothers owner howner with rfl | hnone
    · exact hnot (List.mem_map.mpr ⟨finding, hfinding, of_decide_eq_true hsame⟩)
    · rw [hnone] at hfinding
      cases hfinding

/-- If one delivery alone holds something, just its reports have been added. -/
theorem addsJust {system final : System} (hwon : holding.Won origin reached)
    (hshows : system.Shows origin) (hfinal : final.Shows reached)
    (hcontested : Contested origin origin) :
    system.AddsJust final origin.task.id holding.held := by
  have hdistinct : (holding.held.flatMap GroupReport.ids).Nodup := by
    obtain ⟨first, hreported⟩ := hwon.reported
    rw [hreported]
    exact storedReports_ids_nodup _ _ _
  constructor
  · rw [Orchestrator.groupReports_eq hfinal, ← hledger.contested.id]
    exact (hledger.stores member hothers hdistinct).reports
  · rw [hfinal.groups, hshows.groups]
    exact hledger.contested.others
  · intro id finding hfound
    rw [hshows.findings] at hfound
    rw [hfinal.findings]
    exact hledger.findings_kept hcontested hfound
  · intro id hnot
    rw [hshows.findings, hfinal.findings]
    exact hledger.findings_new member hothers hcontested hnot

end Alone

end Ledger

/-- When all deliveries are done, and there has been an answer, one of them has ended the analysis,
and the others hold nothing. -/
theorem Tallied.landed {origin reached : Scene} {answers : List SaFinished}
    {holdings : List Holding} {log : List (Nat × Event)}
    (h : Tallied origin log reached holdings) (hledger : Ledger origin answers reached holdings)
    (hsome : answers ≠ []) (hdone : ∀ holding ∈ holdings, holding.Done) :
    ∃ winner holding, enders origin.task.id log = [winner] ∧ holdings[winner]? = some holding ∧
      holding.Won origin reached ∧ ∀ owner ∈ holdings, owner = holding ∨ owner.held = [] := by
  cases h with
  | awaited _ hopen hwaiting =>
    -- There has been an answer, and it is neither taken nor late.
    exfalso
    obtain ⟨holding, member⟩ : ∃ holding, holding ∈ holdings := by
      apply List.exists_mem_of_length_pos
      rw [hledger.length]
      exact List.length_pos_of_ne_nil hsome
    rcases hdone holding member with htaken | ⟨hlate, _⟩
    · exact hwaiting holding member htaken
    · have hended := (hledger.fits holding member).ended (by simp [hlate])
      rw [hopen] at hended
      cases hended
  | @decided winner holding hone hwinner hwon hlost =>
    exact ⟨winner, holding, hone, hwinner, hwon, Ledger.held_of_owner hdone hwinner hlost⟩

namespace System

open Orchestrator

variable {o : Orchestrator} {start system : System} {scene : Scene}

/-- A task whose static analysis is awaited is where the contest begins. -/
theorem Shows.contested (hshows : system.Shows scene) (hnumbered : system.Numbered)
    (hunspent : system.Unspent) (hruns : scene.task.runsSa = true)
    (hrunning : scene.task.sa.status = .running) : Contested scene scene where
  fixed := rfl
  id := rfl
  awaited _ := ⟨hrunning, hruns⟩
  others := rfl
  number := Nat.le_refl _
  unnumbered n hn := by
    rw [← hshows.nextNumber] at hn
    rw [← hshows.groups, ← hshows.findings]
    exact ⟨fun group member => hnumbered group member n hn, hunspent.findings n hn⟩

/-- Before any call, the deliveries of the answers are in the contest together. -/
theorem Shows.answers_joined (hshows : system.Shows scene) (hcontested : Contested scene scene)
    (hnone : system.store.groupReports scene.task.id = []) {messages : List SaFinished}
    (hanswers : ∀ message ∈ messages,
      (Completion.sa message).Answers scene.workflow.id scene.task.id) :
    (o.delivering system (messages.map .sa)).Joined (contesting scene)
      (fun _ reached holdings => Ledger scene messages reached holdings) Holding.Done scene
        (messages.map Holding.start) := by
  have hempty : ∀ group ∈ scene.groups, group.taskId ≠ scene.task.id := by
    intro group member htask
    rw [groupReports_eq hshows, Scene.reports, List.map_eq_nil_iff, List.filter_eq_nil_iff] at hnone
    exact hnone group member (decide_eq_true htask)
  refine Flight.joined_launch contesting_upholds hshows (.launch hcontested hempty messages)
    (by simp) ?_
  intro index program holding hprogram hholding
  rw [List.map_map, List.getElem?_map, Option.map_eq_some_iff] at hprogram
  obtain ⟨message, hmessage, rfl⟩ := hprogram
  rw [List.getElem?_map, hmessage, Option.map_some, Option.some.injEq] at hholding
  obtain ⟨hworkflow, htask⟩ := (hanswers message (List.mem_of_getElem? hmessage)).about
  rw [← hholding]
  exact onSaFinished_answers hshows.linked hworkflow htask

/-- **Of all answers that race for a task, one report is left.** While the static analysis of a
task is at work, and none of its groups are stored, any number of accepted answers may be delivered
at once. In every order of calls, when all deliveries have ended, just one of them has ended the
analysis, and of all that they have stored just its reports are left: they are the results of the
task in their order, and no other group or finding has changed. -/
theorem one_report_left (hstart : start.Unsubmitted) (hunspent : start.Unspent)
    (hreach : Reaches o start system) {id : Uuid} {workflow : Workflow} {task : Task}
    (hstored : system.store.workflows.get? id = some workflow)
    (hfound : system.store.tasks.get? workflow.taskId = some task)
    (hrunning : task.sa.status = .running)
    (hnone : system.store.groupReports task.id = []) {messages : List SaFinished}
    (hsome : messages ≠ [])
    (hanswers : ∀ message ∈ messages, (Completion.sa message).Answers id task.id)
    (schedule : List (Nat × Environment))
    (hlanded : ((o.delivering system (messages.map .sa)).fly schedule).landed = true) :
    ∃ winner message first ended,
      enders task.id ((o.delivering system (messages.map .sa)).log schedule) = [winner] ∧
      messages[winner]? = some message ∧
      ((o.delivering system (messages.map .sa)).fly schedule).system.store.tasks.get? task.id =
        some ended ∧
      ended.sa.status = .ofSuccess message.success ∧
      ended.sa.resultIds = (storedReports task.id first message.rules).map
        (fun report => report.group.id) ∧
      system.AddsJust ((o.delivering system (messages.map .sa)).fly schedule).system task.id
        (storedReports task.id first message.rules) ∧
      (message.success = false → message.rules = []) := by
  obtain ⟨hsound, hnumbered⟩ := hstart.toInitial.reaches hreach
  have hlinked : workflow.taskId = task.id := (hsound.keyed.tasks _ _ hfound).symm
  obtain ⟨scene, rfl, rfl, rfl, _, hshows, _⟩ := hsound.scene_pair hstored hfound hlinked
  have horderly := ((hstart.inOrder hreach).scenes scene hshows).1
  have hruns : scene.task.runsSa = true := (horderly.consistent.sa.begun (Or.inl hrunning)).2.2
  have hcontested := hshows.contested hnumbered
    (hstart.toInitial.stocked hunspent hreach).toUnspent hruns hrunning
  have htally : Tallied scene [] scene (messages.map Holding.start) := by
    refine .awaited rfl (by rw [hrunning]; rfl) fun holding member => ?_
    obtain ⟨message, _, rfl⟩ := List.mem_map.mp member
    intro htaken
    cases htaken
  obtain ⟨reached, holdings, hjoined, htallied⟩ :=
    htally.fly (hshows.answers_joined hcontested hnone hanswers) schedule
  have hledger := hjoined.pool
  rw [List.nil_append] at htallied
  obtain ⟨winner, holding, hone, hwinner, hwon, hothers⟩ :=
    htallied.landed hledger hsome (hjoined.landed hlanded)
  obtain ⟨first, hreported⟩ := hwon.reported
  have hjust := hledger.addsJust (List.mem_of_getElem? hwinner) hothers hwon hshows hjoined.shows
    hcontested
  have hresults := hwon.results
  rw [hreported] at hjust hresults
  refine ⟨winner, holding.answer, first, reached.task, hone,
    hledger.answers winner holding hwinner, ?_, hwon.status, hresults, hjust,
    SaFinished.rules_of_failed⟩
  rw [← hledger.contested.id]
  exact hjoined.shows.task

/-- Three answers on their way to a scan that waits for the static analysis: it has found one
weakness, or two rules have matched, or it has given up. -/
def disputed : Flight :=
  smallOrchestrator.delivering (compiled .compileSa) ([foundOne, twoRules, gaveUp].map .sa)

/-- Turns in which all reports have been stored when the second answer ends the run. -/
def disputing : List (Nat × Environment) :=
  (List.replicate 5 0 ++ List.replicate 5 1 ++ List.replicate 4 2 ++ [1] ++
    (List.replicate 8 [0, 1, 2]).flatten).map fun index => (index, quietWorld)

/-- All three groups have been stored before the second answer is taken. Its two groups are left,
the results of the task. -/
theorem two_rules_left :
    (disputed.fly (disputing.take 14)).system.store.groups.length = 3 ∧
    enders (Uuid.generated 2) (disputed.log disputing) = [1] ∧
    ∃ task, (disputed.fly disputing).system.store.tasks.get? (Uuid.generated 2) = some task ∧
      task.sa.status = .success ∧
      ((disputed.fly disputing).system.store.groupReports (Uuid.generated 2)).map
        (fun report => report.group.id) = task.sa.resultIds ∧
      task.sa.resultIds.length = 2 := by
  have hworkflow : ((compiled .compileSa).store.workflows.get? (Uuid.generated 3)).map
      Workflow.taskId = some (Uuid.generated 2) := by
    decide +kernel
  have htask : ((compiled .compileSa).store.tasks.get? (Uuid.generated 2)).map
      (fun task => (task.id, task.sa.status)) = some (Uuid.generated 2, .running) := by
    decide +kernel
  have hnone : (compiled .compileSa).store.groupReports (Uuid.generated 2) = [] := by
    decide +kernel
  have hlanded : (disputed.fly disputing).landed = true := by decide +kernel
  have hthree : (disputed.fly (disputing.take 14)).system.store.groups.length = 3 := by
    decide +kernel
  have hfirst : enders (Uuid.generated 2) (disputed.log disputing) = [1] := by decide +kernel
  obtain ⟨workflow, hstored, hlinked⟩ := Option.map_eq_some_iff.mp hworkflow
  obtain ⟨task, hfound, hstate⟩ := Option.map_eq_some_iff.mp htask
  obtain ⟨hid, hrunning⟩ := Prod.mk.inj hstate
  rw [← hlinked] at hfound
  rw [← hid] at hnone
  have hanswers : ∀ message ∈ [foundOne, twoRules, gaveUp],
      (Completion.sa message).Answers (Uuid.generated 3) task.id := by
    rw [hid]
    intro message member
    simp only [List.mem_cons, List.not_mem_nil, or_false] at member
    rcases member with rfl | rfl | rfl
    · exact ⟨⟨.saFinish, foundOne.toJson, rfl⟩, rfl, rfl⟩
    · exact ⟨⟨.saFinish, twoRules.toJson, rfl⟩, rfl, rfl⟩
    · exact ⟨⟨.saFinish, gaveUp.toJson, rfl⟩, rfl, rfl⟩
  obtain ⟨winner, message, first, ended, hone, hmessage, hended, hstatus, hresults, hjust, _⟩ :=
    one_report_left unsubmitted_empty unspent_empty (reaches_compiled .compileSa) hstored hfound
      hrunning hnone (by decide) hanswers disputing hlanded
  rw [hid] at hone hended hjust hresults
  -- The second answer has been taken.
  cases hone.symm.trans hfirst
  cases hmessage
  unfold disputed at hthree hfirst ⊢
  refine ⟨hthree, hfirst, ended, hended, hstatus, ?_, ?_⟩
  · rw [hresults, ← hjust.own]
  · rw [hresults]
    rfl

end System

end ScanFlow
