import ScanFlow.Proofs.Race.Requests
import ScanFlow.Proofs.Record.Review

/-!
What whole services ask of the engines.

A request rests on a write of the service that makes it: a compilation is asked for by whoever
has created the workflow, and an analysis by whoever has bound the rules to its task. From one
service to the next the queues therefore receive no request about a workflow that has been there
before and whose task has no rules bound.
-/

namespace ScanFlow

def AnalysisRequest.Ruled (request : AnalysisRequest) (system : System) : Prop :=
  ∃ workflow task, system.store.workflows.get? request.workflowId = some workflow ∧
    system.store.tasks.get? workflow.taskId = some task ∧ task.snapshot.isSome

namespace EngineRequest

/-- What a service has done where it makes the request: it has created the workflow, or the rules
are bound when it ends. -/
def Due (before after : System) : EngineRequest → Prop
  | compile request => before.store.workflows.get? request.workflowId = none
  | saAnalyze request => request.Ruled after
  | mlAnalyze request => request.Ruled after

/-- A workflow that has been there before, and whose task has no rules, is not asked about. -/
theorem Due.elsewhere {before after : System} {request : EngineRequest}
    (hdue : request.Due before after) {workflow : Workflow} {task : Task} {id : Uuid}
    (hknown : (before.store.workflows.get? id).isSome)
    (hworkflow : after.store.workflows.get? id = some workflow)
    (htask : after.store.tasks.get? workflow.taskId = some task)
    (hunruled : task.snapshot = none) : request.workflowId ≠ id := by
  rintro rfl
  have hbound : ∀ analysis : AnalysisRequest, analysis.workflowId = request.workflowId →
      ¬ analysis.Ruled after := by
    rintro analysis hid ⟨other, bound, hother, hstored, hsome⟩
    rw [hid, hworkflow, Option.some.injEq] at hother
    rw [← hother, htask, Option.some.injEq] at hstored
    rw [← hstored, hunruled] at hsome
    cases hsome
  cases request with
  | compile request =>
    have hnew : before.store.workflows.get? request.workflowId = none := hdue
    change (before.store.workflows.get? request.workflowId).isSome at hknown
    rw [hnew] at hknown
    cases hknown
  | saAnalyze request => exact hbound request rfl hdue
  | mlAnalyze request => exact hbound request rfl hdue

end EngineRequest

/-! ### The queues -/

def System.Asks (before after : System) (kind : EngineRequest → Prop) : Prop :=
  ∃ requests : List EngineRequest,
    after.broker.waiting = before.broker.waiting ++ requests.map EngineRequest.sent ∧
      ∀ request ∈ requests, kind request

namespace System.Asks

variable {before between after : System} {kind : EngineRequest → Prop}

theorem of_broker (hbroker : after.broker = before.broker) (kind : EngineRequest → Prop) :
    before.Asks after kind :=
  ⟨[], by rw [hbroker, List.map_nil, List.append_nil], nofun⟩

theorem mono {wider : EngineRequest → Prop} (h : before.Asks after kind)
    (himp : ∀ request, kind request → wider request) : before.Asks after wider := by
  obtain ⟨requests, hwaiting, hkind⟩ := h
  exact ⟨requests, hwaiting, fun request member => himp request (hkind request member)⟩

theorem trans (hfirst : before.Asks between kind) (hsecond : between.Asks after kind) :
    before.Asks after kind := by
  obtain ⟨requests, hwaiting, hkind⟩ := hfirst
  obtain ⟨more, hmore, hother⟩ := hsecond
  refine ⟨requests ++ more, ?_, ?_⟩
  · rw [hmore, hwaiting, List.map_append, List.append_assoc]
  · intro request member
    rcases List.mem_append.mp member with hold | hnew
    · exact hkind request hold
    · exact hother request hnew

end System.Asks

/-- The queues receive what a call publishes. -/
theorem Call.waiting_perform {β : Type} (call : Call β) (env : Environment) (system : System) :
    (call.perform env system).2.broker.waiting =
      system.broker.waiting ++ published [⟨call, (call.perform env system).1⟩] := by
  cases call with
  | publish queue payload =>
    simp only [Call.perform, System.publish]
    split
    · exact (List.append_nil _).symm
    · exact Broker.waiting_publish _ _ _ _
  | clock | reserve | store | blobExists | blobUrl => exact (List.append_nil _).symm

theorem Program.Runs.broker_of_silent {α : Type} {program : Program α}
    {outcome : Except ServiceError α} {system final : System}
    (hruns : program.Runs system outcome final) (hsilent : program.Only Call.Silent) :
    final.broker = system.broker := by
  refine hruns.preserves (fun met => met.broker = system.broker) ?_ hsilent rfl
  intro β call env met hcall hbroker
  cases call with
  | publish => exact hcall.elim
  | clock | reserve | store | blobExists | blobUrl => exact hbroker

/-! ### A program that asks engines -/

/-- What is known of a program that has led from one system to another: its insights are right,
those that nobody else can have gained were not there before, and the queues have received the
requests that it has made. -/
structure Inquiry (o : Orchestrator) (before : System) (known : Knowledge) (system : System) :
    Prop where
  keyed : system.store.Keyed
  holds : ∀ insight ∈ known.insights, insight.Holds system
  lasting : ∀ insight : Insight, insight.Holds before → insight.Holds system
  own : ∀ insight ∈ known.insights, insight.Exclusive → ¬ insight.Holds before
  grounded : ∀ request ∈ known.asked, request.Grounded o known.insights
  waiting : system.broker.waiting =
    before.broker.waiting ++ known.asked.map EngineRequest.sent

namespace Inquiry

variable {o : Orchestrator} {before system : System} {known learnt : Knowledge}

theorem start (o : Orchestrator) (hkeyed : before.store.Keyed) :
    Inquiry o before .nothing before where
  keyed := hkeyed
  holds := fun _ member => absurd member List.not_mem_nil
  lasting := fun _ hholds => hholds
  own := fun _ member => absurd member List.not_mem_nil
  grounded := fun _ member => absurd member List.not_mem_nil
  waiting := (List.append_nil _).symm

/-- A call that is granted leads on. -/
theorem perform {β : Type} {call : Call β} {env : Environment} (h : Inquiry o before known system)
    (hgrants : (asking o).grants call (call.perform env system).1 known learnt) :
    Inquiry o before learnt (call.perform env system).2 := by
  obtain ⟨hmore, hlearnt, hasks⟩ := hgrants
  have hgrounded : ∀ request : EngineRequest, request.Grounded o known.insights →
      request.Grounded o learnt.insights := fun request hrequest => hrequest.mono hmore
  have hcases := hasks.cases
  refine
    { keyed := call.keyed_perform env h.keyed
      holds := ?_
      lasting := fun insight hholds => (h.lasting insight hholds).perform call env h.keyed
      own := ?_
      grounded := ?_
      waiting := ?_ }
  · intro insight member
    rcases hlearnt insight member with hold | hnew
    · exact (h.holds insight hold).perform call env h.keyed
    · exact hnew.holds h.keyed h.holds
  · intro insight member hexclusive
    rcases hlearnt insight member with hold | hnew
    · exact h.own insight hold hexclusive
    · exact fun hholds => hnew.new hexclusive (h.lasting insight hholds)
  · intro request member
    rcases hcases with ⟨_, hsame⟩ | ⟨asked, _, hfounded, _, hsame⟩
    · exact hgrounded request (h.grounded request (hsame ▸ member))
    · rw [hsame] at member
      rcases List.mem_append.mp member with hold | hlast
      · exact hgrounded request (h.grounded request hold)
      · exact hgrounded request (List.mem_singleton.mp hlast ▸ hfounded)
  · rw [call.waiting_perform, h.waiting]
    rcases hcases with ⟨hnone, hsame⟩ | ⟨asked, hone, _, _, hsame⟩
    · rw [hnone, hsame, List.append_nil]
    · rw [hone, hsame, List.map_append, List.append_assoc]
      rfl

/-- The requests rest on what the program has written. -/
theorem asks (h : Inquiry o before known system) (hkeyed : before.store.Keyed) :
    before.Asks system (EngineRequest.Due before system) := by
  refine ⟨known.asked, h.waiting, ?_⟩
  intro request member
  have hfounded : ∀ {workflow : Workflow} {analysis : AnalysisRequest},
      Founded o known.insights workflow analysis → analysis.Ruled system := by
    intro workflow analysis hfounded
    obtain ⟨stored, hstored, hfixed, _⟩ := h.holds _ hfounded.copied
    obtain ⟨snapshot, hbound, _⟩ := hfounded.rules
    obtain ⟨task, htask, hsnapshot⟩ := h.holds _ hbound
    have hlinked : stored.taskId = analysis.taskId :=
      (Workflow.taskId_of_fixed hfixed).trans hfounded.taskId
    refine ⟨stored, task, hfounded.workflowId ▸ hstored, hlinked ▸ htask, ?_⟩
    rw [hsnapshot]
    rfl
  have hgrounded := h.grounded request member
  cases request with
  | compile request =>
    have hnew := h.own _ hgrounded.1 trivial
    change before.store.workflows.get? request.workflowId = none
    cases hstored : before.store.workflows.get? request.workflowId with
    | none => rfl
    | some workflow => exact absurd ⟨workflow, hstored, hkeyed.workflows _ _ hstored⟩ hnew
  | saAnalyze request | mlAnalyze request =>
    obtain ⟨workflow, hanalysis, _⟩ := hgrounded
    exact hfounded hanalysis

end Inquiry

/-! ### Whole services -/

namespace System

open Orchestrator

variable {o : Orchestrator} {system next : System}

theorem asks_of_honors {α : Type} {program : Program α} {outcome : Except ServiceError α}
    {post : Except ServiceError α → Knowledge → Prop} (hkeyed : system.store.Keyed)
    (hhonors : program.Honors (asking o) .nothing post)
    (hruns : program.Runs system outcome next) :
    system.Asks next (EngineRequest.Due system next) := by
  have hknows : ∀ known met, Inquiry o system known met → (asking o).holds known met :=
    fun _ _ h => ⟨h.keyed, h.holds⟩
  obtain ⟨learnt, hinquiry, _⟩ := hhonors.runs_upholding (Inquiry o system) hknows
    (fun _ _ _ _ _ h hgrants => h.perform hgrants) (Inquiry.start o hkeyed) hruns
  exact hinquiry.asks hkeyed

/-- Whatever a service asks of the engines rests on what it has written. -/
theorem asks_of_service (hkeyed : system.store.Keyed) (hservice : Service o system next) :
    system.Asks next (EngineRequest.Due system next) := by
  cases hservice with
  | registerCode upload hruns =>
    exact .of_broker (hruns.broker_of_silent (registerCode_only upload (fun _ => trivial)
      (fun _ => trivial) trivial fun _ _ => trivial)) _
  | start submission hruns => exact asks_of_honors hkeyed (start_asks submission rfl) hruns
  | process _ hruns => exact asks_of_honors hkeyed (process_asks _ rfl) hruns
  | remerge taskId hruns =>
    cases (remerge_through (o := o) hkeyed taskId).runs hruns with
    | refused => exact .of_broker rfl _
    | replaced => exact .of_broker rfl _
  | audit taskId findingId request hruns =>
    exact .of_broker (hruns.broker_of_silent (auditFinding_only taskId findingId request
      (fun _ => trivial) trivial (fun _ _ => trivial) (fun _ => trivial) fun _ _ => trivial)) _
  | putRule rule => exact .of_broker rfl _
  | putTemplate template => exact .of_broker rfl _

end System

end ScanFlow
