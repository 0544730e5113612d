import ScanFlow.Proofs.Program.Pact
import ScanFlow.Proofs.Race.Insight

/-!
Programs that ask engines: what makes a request right, and why nobody else makes it.

A program asks for a compilation only if it has created the workflow, and for an analysis only
if it has bound the snapshot of the task. Both insights are exclusive, so that two programs never
have the same errand. All that a request carries comes from insights too, and is therefore right
about the records that are stored at any later moment.
-/

namespace ScanFlow

namespace EngineRequest

/-- The record that a request is about: a workflow to compile, or a task to analyse. -/
def subject : EngineRequest → Uuid
  | compile request => request.workflowId
  | saAnalyze request => request.taskId
  | mlAnalyze request => request.taskId

/-- What is to be done once at most. -/
def errand (request : EngineRequest) : Queue × Uuid := (request.queue, request.subject)

def sent (request : EngineRequest) : Queue × Json := (request.queue, request.toJson)

end EngineRequest

def Event.published? : Event → Option (Queue × Json)
  | ⟨.publish queue payload, .ok _⟩ => some (queue, payload)
  | _ => none

def published (history : List Event) : List (Queue × Json) := history.filterMap Event.published?

theorem published_append (history : List Event) (event : Event) :
    published (history ++ [event]) = published history ++ published [event] :=
  List.filterMap_append

/-! ### What a request rests on -/

/-- The insights on which a request for an analysis rests. -/
structure Founded (o : Orchestrator) (insights : List Insight) (workflow : Workflow)
    (request : AnalysisRequest) : Prop where
  copied : .workflow workflow ∈ insights
  workflowId : workflow.id = request.workflowId
  taskId : workflow.taskId = request.taskId
  timeout : request.timeout = workflow.limits.timeoutMinutes
  memory : request.maxMemory = workflow.limits.maxMemoryGb
  source : ∃ task key, .task task ∈ insights ∧ task.id = request.taskId ∧
    task.targetKey = some key ∧ .issued key o.urlLifetime request.source ∈ insights
  rules : ∃ snapshot, .bound request.taskId snapshot ∈ insights ∧
    request.rules = snapshot.rules ∧ snapshot.rules ≠ []

/-- A program with these insights may make the request. -/
def EngineRequest.Grounded (o : Orchestrator) (insights : List Insight) :
    EngineRequest → Prop
  | compile request =>
    .created request.workflowId ∈ insights ∧
      ∃ workflow, .workflow workflow ∈ insights ∧ workflow.id = request.workflowId ∧
        workflow.shape.runsCompile = true
  | saAnalyze request =>
    ∃ workflow, Founded o insights workflow request ∧ workflow.shape.runsSa = true
  | mlAnalyze request =>
    ∃ workflow, Founded o insights workflow request ∧ workflow.shape.runsMl = true

theorem Founded.mono {o : Orchestrator} {insights more : List Insight} {workflow : Workflow}
    {request : AnalysisRequest} (h : Founded o insights workflow request)
    (hmore : ∀ insight ∈ insights, insight ∈ more) : Founded o more workflow request where
  copied := hmore _ h.copied
  workflowId := h.workflowId
  taskId := h.taskId
  timeout := h.timeout
  memory := h.memory
  source := by
    obtain ⟨task, key, htask, hid, hkey, hissued⟩ := h.source
    exact ⟨task, key, hmore _ htask, hid, hkey, hmore _ hissued⟩
  rules := by
    obtain ⟨snapshot, hbound, hrules⟩ := h.rules
    exact ⟨snapshot, hmore _ hbound, hrules⟩

theorem EngineRequest.Grounded.mono {o : Orchestrator} {insights more : List Insight}
    {request : EngineRequest} (h : request.Grounded o insights)
    (hmore : ∀ insight ∈ insights, insight ∈ more) : request.Grounded o more := by
  cases request with
  | compile request =>
    obtain ⟨hcreated, workflow, hworkflow, hrest⟩ := h
    exact ⟨hmore _ hcreated, workflow, hmore _ hworkflow, hrest⟩
  | saAnalyze request | mlAnalyze request =>
    obtain ⟨workflow, hfounded, hruns⟩ := h
    exact ⟨workflow, hfounded.mono hmore, hruns⟩

/-- Two requests for one errand rest on one exclusive insight. -/
theorem EngineRequest.Grounded.same_errand {o : Orchestrator} {system : System}
    {insights others : List Insight} {request other : EngineRequest}
    (h : request.Grounded o insights) (hother : other.Grounded o others)
    (hinsights : ∀ insight ∈ insights, insight.Holds system)
    (hothers : ∀ insight ∈ others, insight.Holds system) (hsame : request.errand = other.errand) :
    ∃ insight : Insight, insight.Exclusive ∧ insight ∈ insights ∧ insight ∈ others := by
  have hbound : ∀ {workflow rival : Workflow} {analysis second : AnalysisRequest},
      Founded o insights workflow analysis → Founded o others rival second →
        analysis.taskId = second.taskId →
          ∃ insight : Insight, insight.Exclusive ∧ insight ∈ insights ∧ insight ∈ others := by
    intro workflow rival analysis second hfounded hrival htask
    obtain ⟨snapshot, hown, _⟩ := hfounded.rules
    obtain ⟨bound, htheirs, _⟩ := hrival.rules
    -- Both snapshots are the one that is stored.
    obtain ⟨task, hstored, hsnapshot⟩ := hinsights _ hown
    obtain ⟨again, hagain, hbound⟩ := hothers _ htheirs
    rw [← htask, hstored, Option.some.injEq] at hagain
    rw [← hagain, hsnapshot, Option.some.injEq] at hbound
    rw [← htask, ← hbound] at htheirs
    exact ⟨.bound analysis.taskId snapshot, trivial, hown, htheirs⟩
  obtain ⟨hqueue, hsubject⟩ := Prod.mk.inj hsame
  cases request with
  | compile request =>
    cases other with
    | compile second =>
      have hid : request.workflowId = second.workflowId := hsubject
      exact ⟨.created request.workflowId, trivial, h.1, hid ▸ hother.1⟩
    | saAnalyze | mlAnalyze => cases hqueue
  | saAnalyze request =>
    cases other with
    | saAnalyze second =>
      obtain ⟨_, hfounded, _⟩ := h
      obtain ⟨_, hrival, _⟩ := hother
      exact hbound hfounded hrival hsubject
    | compile | mlAnalyze => cases hqueue
  | mlAnalyze request =>
    cases other with
    | mlAnalyze second =>
      obtain ⟨_, hfounded, _⟩ := h
      obtain ⟨_, hrival, _⟩ := hother
      exact hbound hfounded hrival hsubject
    | compile | saAnalyze => cases hqueue

/-! ### The pact of asking -/

/-- What a program has found out, and the requests that it has made. -/
structure Knowledge where
  insights : List Insight
  asked : List EngineRequest

namespace Knowledge

def nothing : Knowledge := ⟨[], []⟩

def learn (known : Knowledge) (insight : Insight) : Knowledge :=
  { known with insights := insight :: known.insights }

def ask (known : Knowledge) (request : EngineRequest) : Knowledge :=
  { known with asked := known.asked ++ [request] }

end Knowledge

/-- What a call does to the requests of the program that makes it. Only grounded requests are
made, none of them twice, and workflows are created with permissible limits only. -/
def Call.Asks {β : Type} (o : Orchestrator) (call : Call β) (answer : β) (known : Knowledge)
    (asked : List EngineRequest) : Prop :=
  match call, answer with
  | .publish queue payload, sent =>
    ∃ request : EngineRequest, request.sent = (queue, payload) ∧
      request.Grounded o known.insights ∧ request.errand ∉ known.asked.map EngineRequest.errand ∧
        asked = if sent.isOk then known.asked ++ [request] else known.asked
  | .store (.createWorkflow workflow _), _ =>
    workflow.limits.faults = [] ∧ asked = known.asked
  | _, _ => asked = known.asked

def asking (o : Orchestrator) : Pact Knowledge where
  holds known system :=
    system.store.Keyed ∧ ∀ insight ∈ known.insights, insight.Holds system
  grants call answer known learnt :=
    (∀ insight ∈ known.insights, insight ∈ learnt.insights) ∧
      (∀ insight ∈ learnt.insights,
        insight ∈ known.insights ∨ call.Reveals known.insights answer insight) ∧
      call.Asks o answer known learnt.asked

/-- What asking programs have in common: their insights are right, no two of them have gained
the same exclusive insight, and the messages that have been published are their requests, each
errand once. -/
structure Asking (o : Orchestrator) (history : List Event) (system : System)
    (knowns : List Knowledge) : Prop where
  keyed : system.store.Keyed
  limits : ∀ id workflow, system.store.workflows.get? id = some workflow →
    workflow.limits.faults = []
  holds : ∀ known ∈ knowns, ∀ insight ∈ known.insights, insight.Holds system
  issued : ∀ known ∈ knowns, ∀ key lifetime url,
    .issued key lifetime url ∈ known.insights →
      (⟨.blobUrl key lifetime, .ok url⟩ : Event) ∈ history
  apart : ∀ (i j : Nat) first second, knowns[i]? = some first → knowns[j]? = some second →
    ∀ insight : Insight, insight.Exclusive → insight ∈ first.insights →
      insight ∈ second.insights → i = j
  grounded : ∀ known ∈ knowns, ∀ request ∈ known.asked, request.Grounded o known.insights
  requests : ∃ requests : List EngineRequest, published history = requests.map EngineRequest.sent ∧
    (requests.map EngineRequest.errand).Nodup ∧
      ∀ request ∈ requests, ∃ known ∈ knowns, request ∈ known.asked

section Step

variable {o : Orchestrator} {β : Type} {call : Call β} {answer : β} {env : Environment}
  {history : List Event} {system : System} {knowns : List Knowledge} {known learnt : Knowledge}
  {asked : List EngineRequest} {index : Nat}

/-- A call publishes a new request, or nothing. -/
theorem Call.Asks.cases (h : call.Asks o answer known asked) :
    published [⟨call, answer⟩] = [] ∧ asked = known.asked ∨
      ∃ request : EngineRequest, published [⟨call, answer⟩] = [request.sent] ∧
        request.Grounded o known.insights ∧
          request.errand ∉ known.asked.map EngineRequest.errand ∧
            asked = known.asked ++ [request] := by
  cases call with
  | publish queue payload =>
    obtain ⟨request, hsent, hgrounded, hnew, hasked⟩ := h
    cases answer with
    | ok id =>
      have hone : published [⟨.publish queue payload, .ok id⟩] = [request.sent] :=
        congrArg (fun sent => [sent]) hsent.symm
      exact Or.inr ⟨request, hone, hgrounded, hnew, hasked⟩
    | error e => exact Or.inl ⟨rfl, hasked⟩
  | store operation =>
    refine Or.inl ⟨rfl, ?_⟩
    cases operation with
    | createWorkflow => exact h.2
    | _ => exact h
  | _ => exact Or.inl ⟨rfl, h⟩

/-- Stored workflows keep their limits, and new ones have permissible limits. -/
theorem Call.Asks.limits (h : call.Asks o answer known asked) (hkeyed : system.store.Keyed)
    (hlimits : ∀ id workflow, system.store.workflows.get? id = some workflow →
      workflow.limits.faults = []) :
    ∀ id workflow, (call.perform env system).2.store.workflows.get? id = some workflow →
      workflow.limits.faults = [] := by
  cases call with
  | store operation =>
    intro id workflow hstored
    rcases operation.stored_workflow env.now hkeyed hstored with ⟨before, hbefore, rfl⟩ | hadds
    · rw [operation.onWorkflow_limits]
      exact hlimits id before hbefore
    · cases operation with
      | createWorkflow added task =>
        have hsame : added = workflow := hadds
        exact hsame ▸ h.1
      | _ => exact hadds.elim
  | publish queue payload =>
    simp only [Call.perform, System.publish]
    split
    · exact hlimits
    · exact hlimits
  | clock | reserve | blobExists | blobUrl => exact hlimits

/-- The requests of a pool after a call of one of its programs. -/
theorem Asking.requests_step (hpool : Asking o history system knowns)
    (hknown : knowns[index]? = some known) (h : call.Asks o answer known learnt.asked) :
    ∃ requests : List EngineRequest,
      published (history ++ [⟨call, answer⟩]) = requests.map EngineRequest.sent ∧
        (requests.map EngineRequest.errand).Nodup ∧
          ∀ request ∈ requests, ∃ known ∈ knowns.set index learnt, request ∈ known.asked := by
  obtain ⟨requests, hpublished, hnodup, hasked⟩ := hpool.requests
  have hbound := (List.getElem?_eq_some_iff.mp hknown).1
  have hmember := List.mem_of_getElem? hknown
  have hkept : (∀ request ∈ known.asked, request ∈ learnt.asked) → ∀ request ∈ requests,
      ∃ known ∈ knowns.set index learnt, request ∈ known.asked := by
    intro hmore request hrequest
    obtain ⟨owner, howner, howned⟩ := hasked request hrequest
    obtain ⟨position, hposition⟩ := List.mem_iff_getElem?.mp howner
    by_cases hsame : position = index
    · rw [hsame, hknown, Option.some.injEq] at hposition
      exact ⟨learnt, List.mem_set hbound learnt, hmore request (hposition ▸ howned)⟩
    · refine ⟨owner, List.mem_of_getElem? (i := position) ?_, howned⟩
      rw [List.getElem?_set_ne (Ne.symm hsame)]
      exact hposition
  rw [published_append, hpublished]
  rcases h.cases with ⟨hnone, hsame⟩ | ⟨request, hone, hgrounded, hnew, hsame⟩
  · rw [hnone, List.append_nil]
    exact ⟨requests, rfl, hnodup, hkept fun _ hrequest => hsame ▸ hrequest⟩
  · have hfirst : request.errand ∉ requests.map EngineRequest.errand := by
      intro hagain
      obtain ⟨other, hother, herrand⟩ := List.mem_map.mp hagain
      obtain ⟨owner, howner, howned⟩ := hasked other hother
      obtain ⟨position, hposition⟩ := List.mem_iff_getElem?.mp howner
      obtain ⟨insight, hexclusive, htheirs, hours⟩ :=
        (hpool.grounded owner howner other howned).same_errand hgrounded
          (hpool.holds owner howner) (hpool.holds known hmember) herrand
      obtain rfl := hpool.apart position index owner known hposition hknown insight hexclusive
        htheirs hours
      rw [hknown, Option.some.injEq] at hposition
      exact hnew (herrand ▸ List.mem_map_of_mem (hposition ▸ howned))
    refine ⟨requests ++ [request], by rw [hone, List.map_append, List.map_singleton], ?_, ?_⟩
    · rw [List.map_append, List.map_singleton, List.nodup_append]
      refine ⟨hnodup, by simp, ?_⟩
      rintro errand hold _ hlast rfl
      exact hfirst (List.mem_singleton.mp hlast ▸ hold)
    · intro other hother
      rcases List.mem_append.mp hother with hother | hother
      · exact hkept (fun _ hrequest => hsame ▸ List.mem_append_left _ hrequest) other hother
      · obtain rfl := List.mem_singleton.mp hother
        exact ⟨learnt, List.mem_set hbound learnt, hsame ▸ List.mem_append_right _ hother⟩

theorem asking_upholds (o : Orchestrator) : (asking o).Upholds (Asking o) where
  holds hpool hmember := ⟨hpool.keyed, hpool.holds _ hmember⟩
  steps := by
    intro β call env history system knowns index known learnt hpool hknown hgrants
    obtain ⟨hmore, hlearnt, hasks⟩ := hgrants
    have hmember := List.mem_of_getElem? hknown
    have hours := hpool.holds known hmember
    have hkept : ∀ insight : Insight, insight.Holds system →
        insight.Holds (call.perform env system).2 :=
      fun insight hholds => hholds.perform call env hpool.keyed
    -- What the caller has just learnt is nobody else's.
    have hapart : ∀ (position : Nat) other, knowns[position]? = some other → position ≠ index →
        ∀ insight : Insight, insight.Exclusive → insight ∈ learnt.insights →
          insight ∉ other.insights := by
      intro position other hother hne insight hexclusive hown htheirs
      rcases hlearnt insight hown with hold | hnew
      · exact hne (hpool.apart position index other known hother hknown insight hexclusive
          htheirs hold)
      · exact hnew.new hexclusive
          (hpool.holds other (List.mem_of_getElem? hother) insight htheirs)
    refine
      { keyed := call.keyed_perform env hpool.keyed
        limits := hasks.limits hpool.keyed hpool.limits
        holds := ?_
        issued := ?_
        apart := ?_
        grounded := ?_
        requests := hpool.requests_step hknown hasks }
    · intro other hother insight hinsight
      rcases List.mem_or_eq_of_mem_set hother with hother | rfl
      · exact hkept insight (hpool.holds other hother insight hinsight)
      · rcases hlearnt insight hinsight with hold | hnew
        · exact hkept insight (hours insight hold)
        · exact hnew.holds hpool.keyed hours
    · intro other hother key lifetime url hissued
      rcases List.mem_or_eq_of_mem_set hother with hother | rfl
      · exact List.mem_append_left _ (hpool.issued other hother key lifetime url hissued)
      · rcases hlearnt _ hissued with hold | hnew
        · exact List.mem_append_left _ (hpool.issued known hmember key lifetime url hold)
        · generalize (call.perform env system).1 = answer at hnew
          cases hnew
          exact List.mem_append_right _ (List.mem_singleton_self _)
    · intro i j first second hfirst hsecond insight hexclusive hone htwo
      rcases getElem?_set_cases hfirst with ⟨rfl, rfl⟩ | ⟨hi, hold⟩
      · rcases getElem?_set_cases hsecond with ⟨rfl, _⟩ | ⟨hj, hother⟩
        · rfl
        · exact absurd htwo (hapart j second hother hj insight hexclusive hone)
      · rcases getElem?_set_cases hsecond with ⟨rfl, rfl⟩ | ⟨_, hother⟩
        · exact absurd hone (hapart i first hold hi insight hexclusive htwo)
        · exact hpool.apart i j first second hold hother insight hexclusive hone htwo
    · intro other hother request hrequest
      rcases List.mem_or_eq_of_mem_set hother with hother | rfl
      · exact hpool.grounded other hother request hrequest
      · have hold : ∀ request ∈ known.asked, request.Grounded o other.insights :=
          fun request hrequest => (hpool.grounded known hmember request hrequest).mono hmore
        rcases hasks.cases with ⟨_, hsame⟩ | ⟨added, _, hgrounded, _, hsame⟩
        · exact hold request (hsame ▸ hrequest)
        · rw [hsame] at hrequest
          rcases List.mem_append.mp hrequest with hrequest | hrequest
          · exact hold request hrequest
          · rw [List.mem_singleton.mp hrequest]
            exact hgrounded.mono hmore

end Step

end ScanFlow
