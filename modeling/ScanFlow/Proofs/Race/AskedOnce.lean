import ScanFlow.Proofs.Message.Requests
import ScanFlow.Proofs.Race.Requests

/-!
Every engine is asked once at most, for what is stored.

Any number of submissions and answers come at the same time, and their calls are made in any
order; some may never go on after a call, and publishing may fail. Whatever has been published
by then, each workflow has been sent to the compiler once at most, and each task to either
engine once at most. A request for an analysis lists the rules of the snapshot that is bound to
the task, carries a URL that was issued for its artifact, and keeps to the limits of its
workflow. All of this is said of the message that is published, as it is written and as an
engine reads it.
-/

namespace ScanFlow

/-- What an orchestrator is occupied with: a submission, or an answer that is delivered. -/
inductive Activity where
  | submit (submission : Submission)
  | deliver (message : Completion)

def Activity.program (o : Orchestrator) : Activity → Program Unit
  | submit submission => do
    let _ ← o.start submission
    return
  | deliver message => o.process message

structure AnalysisRequest.Right (o : Orchestrator) (history : List Event) (system : System)
    (workflow : Workflow) (request : AnalysisRequest) : Prop where
  stored : system.store.workflows.get? request.workflowId = some workflow
  taskId : request.taskId = workflow.taskId
  timeout : request.timeout = workflow.limits.timeoutMinutes ∧
    1 ≤ request.timeout ∧ request.timeout ≤ 30
  memory : request.maxMemory = workflow.limits.maxMemoryGb ∧
    1 ≤ request.maxMemory ∧ request.maxMemory ≤ 16
  bound : ∃ task snapshot key, system.store.tasks.get? request.taskId = some task ∧
    task.snapshot = some snapshot ∧ request.rules = snapshot.rules ∧ request.rules ≠ [] ∧
      task.targetKey = some key ∧
        (⟨.blobUrl key o.urlLifetime, .ok request.source⟩ : Event) ∈ history

/-- The request is right, and its engine is one that the shape of its workflow runs. -/
def EngineRequest.Right (o : Orchestrator) (history : List Event) (system : System) :
    EngineRequest → Prop
  | compile request =>
    ∃ workflow, system.store.workflows.get? request.workflowId = some workflow ∧
      workflow.shape.runsCompile = true
  | saAnalyze request =>
    ∃ workflow, request.Right o history system workflow ∧ workflow.shape.runsSa = true
  | mlAnalyze request =>
    ∃ workflow, request.Right o history system workflow ∧ workflow.shape.runsMl = true

theorem EngineRequest.Right.limitsFit {o : Orchestrator} {history : List Event} {system : System}
    {request : EngineRequest} (h : request.Right o history system) : request.LimitsFit := by
  cases request with
  | compile request => trivial
  | saAnalyze request | mlAnalyze request =>
    obtain ⟨workflow, hright, -⟩ := h
    exact ⟨Nat.le_trans hright.memory.2.2 (by decide), Nat.le_trans hright.timeout.2.2 (by decide)⟩

/-- The message is on the queue of the engine that the request is for, and carries the request:
each of its members is written there, and if all identifiers have 128 bits then the engine reads
the request. -/
structure EngineRequest.CarriedBy (request : EngineRequest) (message : Queue × Json) : Prop where
  queue : message.1 = request.queue
  written : request.WrittenAs message.2
  read : (∀ id ∈ request.ids, id.value < 2 ^ 128) → EngineRequest.read? message = some request

theorem rangeFault_eq_nil {field : String} {n least greatest : Nat} :
    rangeFault field n least greatest = [] ↔ least ≤ n ∧ n ≤ greatest := by
  simp [rangeFault]

theorem EngineLimits.bounds_of_faults {limits : EngineLimits} (h : limits.faults = []) :
    (1 ≤ limits.timeoutMinutes ∧ limits.timeoutMinutes ≤ 30) ∧
      1 ≤ limits.maxMemoryGb ∧ limits.maxMemoryGb ≤ 16 := by
  obtain ⟨hmemory, htimeout⟩ := List.append_eq_nil_iff.mp h
  exact ⟨rangeFault_eq_nil.mp htimeout, rangeFault_eq_nil.mp hmemory⟩

namespace System

open Orchestrator Program

variable {o : Orchestrator} {start : System} {history : List Event} {system : System}
  {knowns : List Knowledge} {known : Knowledge}

/-- What a request rests on is stored. -/
theorem right_of_founded (hpool : Asking o history system knowns) (hknown : known ∈ knowns)
    {workflow : Workflow} {request : AnalysisRequest}
    (hfounded : Founded o known.insights workflow request) :
    ∃ stored, request.Right o history system stored ∧ stored.shape = workflow.shape := by
  have hholds := hpool.holds known hknown
  obtain ⟨stored, hstored, hfixed, hlimits⟩ := hholds _ hfounded.copied
  obtain ⟨task, key, htask, htaskId, hkey, hissued⟩ := hfounded.source
  obtain ⟨snapshot, hbound, hrules, hsome⟩ := hfounded.rules
  obtain ⟨found, hfound, hkeys⟩ := hholds _ htask
  obtain ⟨again, hagain, hsnapshot⟩ := hholds _ hbound
  have hsame : again = found := by
    rw [htaskId, hagain] at hfound
    exact Option.some.inj hfound
  have hbounds := EngineLimits.bounds_of_faults (hpool.limits _ stored hstored)
  refine ⟨stored, ?_, Workflow.shape_of_fixed hfixed⟩
  have htimeout : request.timeout = stored.limits.timeoutMinutes :=
    hlimits ▸ hfounded.timeout
  have hmemory : request.maxMemory = stored.limits.maxMemoryGb := hlimits ▸ hfounded.memory
  exact
    { stored := hfounded.workflowId ▸ hstored
      taskId := hfounded.taskId.symm.trans (Workflow.taskId_of_fixed hfixed).symm
      timeout := ⟨htimeout, htimeout ▸ hbounds.1⟩
      memory := ⟨hmemory, hmemory ▸ hbounds.2⟩
      bound := ⟨found, snapshot, key, hsame ▸ hagain, hsame ▸ hsnapshot, hrules, hrules ▸ hsome,
        hkeys key hkey, hpool.issued known hknown key _ _ hissued⟩ }

theorem right_of_grounded (hpool : Asking o history system knowns) (hknown : known ∈ knowns)
    {request : EngineRequest} (hgrounded : request.Grounded o known.insights) :
    request.Right o history system := by
  cases request with
  | compile request =>
    obtain ⟨_, workflow, hcopied, hid, hcompile⟩ := hgrounded
    obtain ⟨stored, hstored, hfixed, _⟩ := hpool.holds known hknown _ hcopied
    exact ⟨stored, hid ▸ hstored, Workflow.shape_of_fixed hfixed ▸ hcompile⟩
  | saAnalyze request | mlAnalyze request =>
    obtain ⟨workflow, hfounded, hruns⟩ := hgrounded
    obtain ⟨stored, hright, hshape⟩ := right_of_founded hpool hknown hfounded
    exact ⟨stored, hright, hshape ▸ hruns⟩

/-- Activities that have made no call yet. -/
theorem bound_launch (hinitial : start.Initial) (activities : List Activity) :
    (Flight.launch start (activities.map (Activity.program o))).Bound (asking o) (Asking o)
      (fun _ => True) (List.replicate activities.length .nothing) where
  pool :=
    { keyed := hinitial.keyed
      limits := by
        intro id workflow hstored
        change start.store.workflows.get? id = some workflow at hstored
        rw [hinitial.workflows, SortedMap.get?_empty] at hstored
        cases hstored
      holds := by
        intro known hknown insight hinsight
        rw [List.eq_of_mem_replicate hknown] at hinsight
        cases hinsight
      issued := by
        intro known hknown key lifetime url hissued
        rw [List.eq_of_mem_replicate hknown] at hissued
        cases hissued
      apart := by
        intro i j first second hfirst _ insight _ hinsight
        rw [List.eq_of_mem_replicate (List.mem_of_getElem? hfirst)] at hinsight
        cases hinsight
      grounded := by
        intro known hknown request hrequest
        rw [List.eq_of_mem_replicate hknown] at hrequest
        cases hrequest
      requests := ⟨[], rfl, List.nodup_nil, nofun⟩ }
  length := by simp [Flight.launch]
  honors := by
    intro index program known hprogram hknown
    rw [List.eq_of_mem_replicate (List.mem_of_getElem? hknown)]
    obtain ⟨activity, _, rfl⟩ := List.mem_map.mp (List.mem_of_getElem? hprogram)
    cases activity with
    | submit submission =>
      change Honors _ (_ >>= _) _ _
      rw [honors_bind]
      apply honors_mono (start_asks submission rfl)
      intro outcome learnt _
      cases outcome with
      | ok _ => trivial
      | error e => trivial
    | deliver message => exact process_asks message rfl

/-- Whatever submissions and answers come at the same time, and in whatever order their calls are
made: all that has been published are messages that carry requests to engines, no errand twice,
and each of the requests says what is stored. -/
theorem engines_asked_once (hinitial : start.Initial) (activities : List Activity)
    (schedule : List (Nat × Environment)) :
    let flight := (Flight.launch start (activities.map (Activity.program o))).fly schedule
    ∃ requests : List EngineRequest,
      List.Forall₂ EngineRequest.CarriedBy requests (published flight.history) ∧
        published flight.history = requests.map EngineRequest.sent ∧
          (requests.map EngineRequest.errand).Nodup ∧
            ∀ request ∈ requests, request.Right o flight.history flight.system := by
  intro flight
  obtain ⟨knowns, hbound⟩ := (bound_launch hinitial activities).fly (asking_upholds o) schedule
  obtain ⟨requests, hpublished, hnodup, hasked⟩ := hbound.pool.requests
  have hright : ∀ request ∈ requests, request.Right o flight.history flight.system := by
    intro request hrequest
    obtain ⟨known, hknown, hmade⟩ := hasked request hrequest
    exact right_of_grounded hbound.pool hknown (hbound.pool.grounded known hknown request hmade)
  refine ⟨requests, ?_, hpublished, hnodup, hright⟩
  rw [hpublished, List.forall₂_map_right_iff, List.forall₂_same]
  intro request hrequest
  exact
    { queue := rfl
      written := request.writtenAs
      read := fun hids => EngineRequest.read?_toJson hids (hright request hrequest).limitsFit }

/-- An archive is submitted, and then the answer of the compiler is delivered twice, with the calls
of the two deliveries in turn. -/
def answeredTwice : Flight :=
  let submission := .submit ⟨Uuid.generated 1, some .compileSaMl, "manual", none, none⟩
  let answer := .deliver (.compile (compiledAs "shop.jar"))
  let programs := [submission, answer, answer].map (Activity.program smallOrchestrator)
  (Flight.launch installed programs).fly
    (List.replicate 20 (0, quietWorld) ++ (List.range 50).map fun n => (1 + n % 2, quietWorld))

theorem reaches_installed : Reaches smallOrchestrator .empty installed :=
  .step (.step (.step .refl (.registerCode _ (runs_quietly _ _))) (.putRule onlyRule))
    (.putTemplate onlyTemplate)

theorem initial_installed : installed.Initial where
  workflows := by decide +kernel
  keyed := (initial_empty.reaches reaches_installed).1.keyed
  numbered := (initial_empty.reaches reaches_installed).2

def wantedAnalysis : AnalysisRequest :=
  { workflowId := Uuid.generated 3, taskId := Uuid.generated 2, source := "shop.jar"
    filename := "shop.jar", rules := [onlyRule.snapshot], maxMemory := 6, timeout := 20 }

theorem answered_twice_asked_once :
    installed.Initial ∧ answeredTwice.landed = true ∧
      (∃ requests : List EngineRequest,
        List.Forall₂ EngineRequest.CarriedBy requests (published answeredTwice.history) ∧
          (requests.map EngineRequest.errand).Nodup ∧
            ∀ request ∈ requests,
              request.Right smallOrchestrator answeredTwice.history answeredTwice.system) ∧
        (published answeredTwice.history).map EngineRequest.read? =
          [some (.compile ⟨Uuid.generated 3, "shop.zip", "shop.zip"⟩),
            some (.saAnalyze wantedAnalysis), some (.mlAnalyze wantedAnalysis)] := by
  obtain ⟨requests, hcarried, -, hnodup, hright⟩ :=
    engines_asked_once (o := smallOrchestrator) initial_installed _ _
  exact ⟨initial_installed, by decide +kernel, ⟨requests, hcarried, hnodup, hright⟩,
    by decide +kernel⟩

end System

end ScanFlow
