import ScanFlow.Proofs.Recovery.Findings

/-!
The report of the static analysis, as it is listed afterwards.

An answer is taken apart into groups and findings, which are stored in two places under numbers of
their own, and put together again by these numbers when the groups of a task are listed. What is
listed then tells of every rule what the answer told of it, and of nothing else.
-/

namespace ScanFlow

structure Finding.New (finding : Finding) (taskId : Uuid) : Prop where
  taskId : finding.taskId = taskId
  facade : ∃ step, finding.path.getLast? = some step ∧
    finding.facade = Facade.render step.file step.line
  unaudited : finding.audit = none

/-- What is listed for a task tells of these rules, and is what the task names as its results. -/
structure System.Lists (system : System) (task : Task) (rules : List (String × SaRuleResult)) :
    Prop where
  reported : (system.store.groupReports task.id).map GroupReport.reported = rules
  owned : ∀ report ∈ system.store.groupReports task.id, report.group.taskId = task.id ∧
    report.group.findingIds = report.findings.map Finding.id
  findings : ∀ report ∈ system.store.groupReports task.id, ∀ finding ∈ report.findings,
    finding.New task.id
  distinct : ((system.store.groupReports task.id).flatMap GroupReport.ids).Nodup
  ids : task.sa.resultIds = (system.store.groupReports task.id).map fun report => report.group.id
  count : task.sa.weaknessCount =
    ((system.store.groupReports task.id).flatMap GroupReport.findings).length

/-- The rules of a result are listed in the order of their names. -/
theorem System.Lists.ascending {system : System} {task : Task} {result : NameMap SaRuleResult}
    (h : system.Lists task result.entries) :
    ((system.store.groupReports task.id).map fun report => report.group.ruleId).Pairwise
      (· < ·) := by
  have hnames : ((system.store.groupReports task.id).map fun report => report.group.ruleId) =
      result.entries.map (·.1) := by
    rw [← h.reported, List.map_map]
    rfl
  rw [hnames, List.pairwise_map]
  exact result.sorted

/-! ### What is stored of an answer -/

/-- A finding with a path is stored as a new one. -/
theorem SaFinding.toFinding_new {finding : SaFinding} (hpath : finding.path ≠ [])
    (id taskId : Uuid) : (finding.toFinding id taskId).New taskId where
  taskId := rfl
  facade := by
    refine ⟨finding.path.getLast hpath, List.getLast?_eq_some_getLast hpath, ?_⟩
    simp only [SaFinding.toFinding, Finding.fresh, Facade.ofPath,
      List.getLast?_eq_some_getLast hpath]
  unaudited := rfl

/-- As many findings are stored as have been reported. -/
theorem storedReports_length (taskId : Uuid) (first : Nat)
    (rules : List (String × SaRuleResult)) :
    ((storedReports taskId first rules).flatMap GroupReport.findings).length =
      (rules.flatMap fun rule => rule.2.findings).length := by
  conv => rhs; rw [← reported_storedReports taskId first rules, List.flatMap_map]
  simp [List.length_flatMap, GroupReport.reported]

theorem storedReports_new {taskId : Uuid} {first : Nat} {rules : List (String × SaRuleResult)}
    (hpath : ∀ rule ∈ rules, ∀ finding ∈ rule.2.findings, finding.path ≠ [])
    {report : GroupReport} (member : report ∈ storedReports taskId first rules) :
    ∀ finding ∈ report.findings, finding.New taskId := by
  intro stored hstored
  obtain ⟨rule, hrule, finding, hfinding, id, rfl⟩ := mem_storedReports member hstored
  exact SaFinding.toFinding_new (hpath rule hrule finding hfinding) id taskId

/-- The rules of an accepted success are those of its result, each finding with a path. -/
theorem SaFinished.rules_of_accepted {answer : SaFinished} {queue : Queue} {body : Json}
    (haccepted : Completion.parse queue body = .ok (.sa answer))
    (hsuccess : answer.success = true) :
    ∃ result, answer.result = some result ∧ answer.rules = result.entries ∧
      ∀ rule ∈ answer.rules, ∀ finding ∈ rule.2.findings, finding.path ≠ [] := by
  have hvalid : answer.validate = .ok () := (Completion.parse_eq_ok haccepted).2
  unfold SaFinished.validate at hvalid
  rw [if_neg (by simp [hsuccess])] at hvalid
  cases hresult : answer.result with
  | none =>
    rw [hresult] at hvalid
    cases hvalid
  | some result =>
    have hrules : answer.rules = result.entries := by simp [rules, hsuccess, hresult]
    refine ⟨result, rfl, hrules, ?_⟩
    rw [hrules]
    exact pathful_of_accepted haccepted hsuccess result hresult

/-- The findings of a result are counted by its rules. -/
theorem SaFinished.findingCount_eq {answer : SaFinished} {result : NameMap SaRuleResult}
    (hresult : answer.result = some result) :
    answer.findingCount = (result.entries.flatMap fun rule => rule.2.findings).length := by
  rw [findingCount, hresult]
  dsimp only
  rw [SortedMap.values, List.flatMap_map]

theorem SaFinished.rules_of_failed {answer : SaFinished} (hfailed : answer.success = false) :
    answer.rules = [] := by
  simp [rules, hfailed]

/-! ### The scene afterwards -/

namespace Scene

variable {o : Orchestrator} {unruled : Option Uuid → Bool} {scene : Scene}

/-- What follows an answer leaves a run of the static analysis alone that has ended. -/
theorem answered_sa (hended : scene.task.sa.status.isTerminal = true) :
    (scene.answered o unruled).task.sa = scene.task.sa := by
  have hcourse : (scene.settled o).task.course = scene.task.course := settled_course
  simp only [Task.course, Prod.mk.injEq] at hcourse
  obtain ⟨_, _, _, _, hsa, _⟩ := hcourse
  have hgivenUp : ∀ task : Task, task.sa.status.isTerminal = true → task.givenUp.sa = task.sa := by
    intro task hterminal
    unfold Task.givenUp Task.saGivenUp
    rw [if_pos hterminal, Task.mlGivenUp]
    split
    · rfl
    · rfl
  unfold answered
  split
  · unfold givenUp
    dsimp only
    split
    · rw [hgivenUp _ (by rw [hsa, hended]), hsa]
    · exact hsa
  · exact hsa

/-- An awaited answer is stored as the reports of its task, and its run names them. -/
theorem Orderly.stores_saAnswered (h : scene.Orderly) {answer : SaFinished}
    (hnot : scene.task.sa.status ≠ .success)
    (hawaits : scene.task.awaitsSa answer.success = true) :
    (scene.saAnswered o unruled answer).Stores
        (storedReports scene.task.id scene.nextNumber answer.rules) ∧
      (scene.saAnswered o unruled answer).task.sa = (scene.saEnded answer).task.sa := by
  have hstores : (scene.saEnded answer).Stores
      (storedReports scene.task.id scene.nextNumber answer.rules) := by
    have hinserted : Stores _ ([] ++ storedReports scene.task.id scene.nextNumber answer.rules) :=
      (stores_nil (h.own_eq_nil hnot)).insertGroups nofun .origin
    refine hinserted.congr ?_ rfl rfl
    rw [after_insertGroups, if_pos (ownReports_storedReports _ _ _)]
    rfl
  rw [saAnswered_of_awaited hawaits]
  refine ⟨hstores.congr answered_given.2 answered_stored.1 answered_stored.2.1, answered_sa ?_⟩
  change (RunStatus.ofSuccess answer.success).isTerminal = true
  cases answer.success with
  | true | false => rfl

end Scene

namespace System

open Orchestrator

variable {o : Orchestrator} {start system final : System}

/-- A scene that stores the reports of an answer lists them. -/
theorem Shows.lists {scene : Scene} {first : Nat} {rules : List (String × SaRuleResult)}
    (hshows : system.Shows scene)
    (hstores : scene.Stores (storedReports scene.task.id first rules))
    (hpath : ∀ rule ∈ rules, ∀ finding ∈ rule.2.findings, finding.path ≠ [])
    (hids : scene.task.sa.resultIds =
      (storedReports scene.task.id first rules).map fun report => report.group.id)
    (hcount : scene.task.sa.weaknessCount = (rules.flatMap fun rule => rule.2.findings).length) :
    system.Lists scene.task rules := by
  have hreports : system.store.groupReports scene.task.id =
      storedReports scene.task.id first rules :=
    (groupReports_eq hshows _).trans hstores.reports
  constructor
  · rw [hreports, reported_storedReports]
  · rw [hreports]
    exact fun report member => storedReports_own member
  · rw [hreports]
    exact fun report member => storedReports_new hpath member
  · rw [hreports, storedReports_ids]
    exact numbered_nodup _ _
  · rw [hreports, hids]
  · rw [hreports, hcount, storedReports_length]

/-- The answer of a static analysis that is at work is stored as the reports of its task, and its
run has ended with them. -/
theorem sa_stored (hstart : start.Unsubmitted) (hreach : Reaches o start system)
    {scene : Scene} (hshows : system.Shows scene) (hrunning : scene.task.sa.status = .running)
    {answer : SaFinished} (hworkflow : answer.workflowId = scene.workflow.id)
    (htask : answer.taskId = scene.task.id) {outcome : Except ServiceError Unit}
    (hruns : (o.process (.sa answer)).Runs system outcome final) :
    ∃ reached, final.Shows reached ∧ reached.task.id = scene.task.id ∧
      reached.Stores (storedReports scene.task.id scene.nextNumber answer.rules) ∧
      reached.task.sa.timeless = (scene.timeless.saEnded answer).task.sa ∧
      (reached.groups, reached.findings) =
        ((scene.timeless.saEnded answer).groups, (scene.timeless.saEnded answer).findings) := by
  obtain ⟨hsound, _⟩ := hstart.toInitial.reaches hreach
  have horderly := ((hstart.inOrder hreach).scenes scene hshows).1
  have hrunsSa : scene.task.runsSa = true := (horderly.consistent.sa.begun (Or.inl hrunning)).2.2
  have hawaits : scene.timeless.task.awaitsSa answer.success = true := by
    change (scene.task.runsSa && scene.task.sa.status.canBecome _) = true
    rw [hrunsSa, hrunning]
    cases answer.success with
    | true | false => rfl
  have hnot : scene.timeless.task.sa.status ≠ .success := by
    change scene.task.sa.status ≠ .success
    rw [hrunning]
    nofun
  obtain ⟨nextNumber, hmoved⟩ := sa_moved hsound hshows hworkflow htask hruns
  obtain ⟨reached, hreached, _, htimeless⟩ := hmoved.leads
  obtain ⟨hstores, hsa⟩ := ((Scene.timeless_same scene).orderly horderly).stores_saAnswered
    (o := o) hnot hawaits
  have hid : reached.task.id = _ := (congrArg (fun scene : Scene => scene.task.id) htimeless :)
  have hgroups : reached.groups = _ := (congrArg Scene.groups htimeless :)
  have hfindings : reached.findings = _ := (congrArg Scene.findings htimeless :)
  have hended : reached.task.sa.timeless = _ :=
    (congrArg (fun scene : Scene => scene.task.sa) htimeless :)
  refine ⟨reached, hreached, hid.trans Scene.saAnswered_given.2, hstores.congr hid hgroups
    hfindings, hended.trans hsa, ?_⟩
  rw [hgroups, hfindings, Scene.saAnswered_of_awaited hawaits, Scene.answered_stored.1,
    Scene.answered_stored.2.1]

/-- **The report of a static analysis is stored without loss.** While it is at work on a task, its
accepted answer ends it. What is listed for the task after a success are the reported rules in the
order of their names, each with its findings, and nothing else; the task names these groups as its
results and counts their findings. A failure stores nothing, whatever it carries. -/
theorem sa_report_listed (hstart : start.Unsubmitted) (hreach : Reaches o start system)
    {id : Uuid} {workflow : Workflow} {task : Task}
    (hstored : system.store.workflows.get? id = some workflow)
    (hfound : system.store.tasks.get? workflow.taskId = some task)
    (hrunning : task.sa.status = .running) {answer : SaFinished}
    (hanswers : (Completion.sa answer).Answers id task.id)
    {outcome : Except ServiceError Unit}
    (hruns : (o.process (.sa answer)).Runs system outcome final) :
    ∃ ended, final.store.tasks.get? task.id = some ended ∧ ended.id = task.id ∧
      (answer.success = true → ∃ result, answer.result = some result ∧
        final.Lists ended result.entries ∧
        ((final.store.groupReports task.id).map fun report => report.group.ruleId).Pairwise
          (· < ·) ∧
        ended.sa.weaknessCount = answer.findingCount ∧ ended.sa.status = .success) ∧
      (answer.success = false → final.store.groups = system.store.groups ∧
        final.store.findings = system.store.findings ∧ final.Lists ended [] ∧
        ended.sa.status = .exception) := by
  obtain ⟨hsound, _⟩ := hstart.toInitial.reaches hreach
  have hlinked : workflow.taskId = task.id := (hsound.keyed.tasks _ _ hfound).symm
  obtain ⟨scene, rfl, rfl, hid, _, hshows, _⟩ := hsound.scene_pair hstored hfound hlinked
  obtain ⟨⟨queue, body, haccepted⟩, hworkflow, htask⟩ := hanswers
  obtain ⟨reached, hreached, hsame, hstores, hsa, hkept⟩ :=
    sa_stored hstart hreach hshows hrunning (hworkflow.trans hid) htask hruns
  obtain ⟨hgroups, hfindings⟩ := Prod.mk.inj hkept
  have hstatus : reached.task.sa.status = .ofSuccess answer.success :=
    (congrArg SaRun.status hsa :)
  have hids : reached.task.sa.resultIds =
      (storedReports scene.task.id scene.nextNumber answer.rules).map fun report =>
        report.group.id :=
    (congrArg SaRun.resultIds hsa :)
  have hcount : reached.task.sa.weaknessCount =
      (answer.rules.flatMap fun rule => rule.2.findings).length :=
    (congrArg SaRun.weaknessCount hsa :)
  rw [← hsame] at hstores
  refine ⟨reached.task, hsame ▸ hreached.task, hsame, ?_, ?_⟩
  · intro hsuccess
    obtain ⟨result, hresult, hrules, hpath⟩ := SaFinished.rules_of_accepted haccepted hsuccess
    have hlists : final.Lists reached.task answer.rules :=
      hreached.lists hstores hpath (by rw [hids, hsame]) hcount
    rw [hrules] at hlists hcount
    refine ⟨result, hresult, hlists, hsame ▸ hlists.ascending, ?_, ?_⟩
    · rw [hcount, SaFinished.findingCount_eq hresult]
    · rw [hstatus, hsuccess]
      rfl
  · intro hfailed
    have hrules := SaFinished.rules_of_failed hfailed
    have hlists : final.Lists reached.task answer.rules :=
      hreached.lists hstores (by simp [hrules]) (by rw [hids, hsame]) hcount
    rw [Scene.saEnded_failed hfailed] at hgroups hfindings
    refine ⟨?_, ?_, hrules ▸ hlists, ?_⟩
    · rw [hreached.groups, hgroups, hshows.groups]
      rfl
    · rw [hreached.findings, hfindings, hshows.findings]
      rfl
    · rw [hstatus, hfailed]
      rfl

/-- Two rules have matched, one of them without a weakness. -/
def twoRules : SaFinished :=
  { foundOne with
    result := some (SortedMap.ofList
      [("xss",
        { ruleName := "Cross-Site Scripting", ruleCwe := "79", ruleCategory := "injection"
          ruleLevel := .low, findings := [] }),
      ("command-injection",
        { ruleName := "Command Injection", ruleCwe := "78", ruleCategory := "injection"
          ruleLevel := .high
          findings :=
            [⟨"readLine", "exec", [{ file := "Shop.java", line := 7 }]⟩,
              ⟨"readLine", "exec", [{ file := "Cart.java", line := 9 }]⟩] })]) }

def reportedTwo (success : Bool) : System :=
  ((smallOrchestrator.process (.sa { twoRules with success })).run quietWorld
    (compiled .compileSa)).2

/-- Both rules are listed in the order of their names, and nothing after a failure. -/
theorem two_rules_listed :
    (∃ task, (reportedTwo true).store.tasks.get? (Uuid.generated 2) = some task ∧
      (∃ result, twoRules.result = some result ∧ (reportedTwo true).Lists task result.entries) ∧
      task.sa.weaknessCount = 2) ∧
    ((reportedTwo true).store.groupReports (Uuid.generated 2)).map (fun report =>
      (report.group.ruleId, report.findings.map Finding.facade)) =
        [("command-injection", ["Shop.java:7", "Cart.java:9"]), ("xss", [])] ∧
    ∃ task, (reportedTwo false).store.tasks.get? (Uuid.generated 2) = some task ∧
      (reportedTwo false).Lists task [] ∧
      (reportedTwo false).store.groups = (compiled .compileSa).store.groups := by
  have hworkflow : ((compiled .compileSa).store.workflows.get? (Uuid.generated 3)).map
      Workflow.taskId = some (Uuid.generated 2) := by
    decide +kernel
  have htask : ((compiled .compileSa).store.tasks.get? (Uuid.generated 2)).map
      (fun task => (task.id, task.sa.status)) = some (Uuid.generated 2, .running) := by
    decide +kernel
  obtain ⟨workflow, hstored, hlinked⟩ := Option.map_eq_some_iff.mp hworkflow
  obtain ⟨task, hfound, hstate⟩ := Option.map_eq_some_iff.mp htask
  obtain ⟨hid, hrunning⟩ := Prod.mk.inj hstate
  rw [← hlinked] at hfound
  have haccepted : ∀ success, (Completion.sa { twoRules with success }).Answers
      (Uuid.generated 3) task.id := by
    intro success
    refine ⟨⟨.saFinish, SaFinished.toJson { twoRules with success }, ?_⟩, rfl, hid.symm⟩
    cases success with
    | true | false => rfl
  obtain ⟨ended, hended, _, hsucceeded, _⟩ := sa_report_listed unsubmitted_empty
    (reaches_compiled .compileSa) hstored hfound hrunning (haccepted true) (runs_quietly _ _)
  obtain ⟨failed, hfailed, _, _, hkept⟩ := sa_report_listed unsubmitted_empty
    (reaches_compiled .compileSa) hstored hfound hrunning (haccepted false) (runs_quietly _ _)
  obtain ⟨result, hresult, hlists, _, hcount, _⟩ := hsucceeded rfl
  obtain ⟨hgroups, _, hnothing, _⟩ := hkept rfl
  rw [hid] at hended hfailed
  refine ⟨⟨ended, hended, ⟨result, hresult, hlists⟩, ?_⟩, ?_, failed, hfailed, hnothing, hgroups⟩
  · rw [hcount]
    decide +kernel
  · decide +kernel

end System

end ScanFlow
