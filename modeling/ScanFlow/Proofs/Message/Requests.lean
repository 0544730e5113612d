import Mathlib.Data.List.Forall2
import ScanFlow.Json.Sorted
import ScanFlow.Message.EngineRequest
import ScanFlow.Proofs.Message.RoundTrip

/-!
Requests to the engines as they are written, and read by the engines.

What stands in a request is said member by member, without its writer. The writer produces all
of it, and where identifiers have 128 bits and numbers 32 bits, the engines read back exactly the
request that was written.
-/

namespace ScanFlow

open Json

/-! ### What is written -/

structure RuleSnapshot.WrittenAs (rule : RuleSnapshot) (item : Json) : Prop where
  id : item.follow? ["id"] = some (.string rule.ruleId.toString)
  name : item.follow? ["name"] = some (.string rule.name)
  cwe : item.follow? ["cwe"] = some (.string rule.cwe)
  category : item.follow? ["category"] = some (.string rule.category)
  level : item.follow? ["level"] = some (.number (.whole rule.level.code))
  source : item.follow? ["source"] = some (.array (rule.source.map .string))
  sink : item.follow? ["sink"] = some (.array (rule.sink.map .string))

theorem RuleSnapshot.writtenAs (rule : RuleSnapshot) : rule.WrittenAs rule.toEngineJson :=
  ⟨rfl, rfl, rfl, rfl, rfl, rfl, rfl⟩

structure CompileRequest.WrittenAs (request : CompileRequest) (payload : Json) : Prop where
  workflowId : payload.follow? ["workflowId"] = some (.string request.workflowId.toString)
  source : payload.follow? ["source"] = some (.string request.source)
  filename : payload.follow? ["filename"] = some (.string request.filename)

/-- The members of a request to analyse; the rules stand in a list, in their order. -/
structure AnalysisRequest.WrittenAs (request : AnalysisRequest) (payload : Json) : Prop where
  workflowId : payload.follow? ["workflowId"] = some (.string request.workflowId.toString)
  taskId : payload.follow? ["taskId"] = some (.string request.taskId.toString)
  source : payload.follow? ["source"] = some (.string request.source)
  filename : payload.follow? ["filename"] = some (.string request.filename)
  rules : ∃ items, payload.follow? ["rules"] = some (.array items) ∧
    List.Forall₂ RuleSnapshot.WrittenAs request.rules items
  maxMemory : payload.follow? ["maxMemory"] = some (.number (.whole request.maxMemory))
  timeout : payload.follow? ["timeout"] = some (.number (.whole request.timeout))

theorem AnalysisRequest.writtenAs (request : AnalysisRequest) :
    request.WrittenAs request.toJson := by
  refine ⟨rfl, rfl, rfl, rfl, ⟨request.rules.map RuleSnapshot.toEngineJson, rfl, ?_⟩, rfl, rfl⟩
  rw [List.forall₂_map_right_iff, List.forall₂_same]
  exact fun rule _ => rule.writtenAs

def EngineRequest.WrittenAs : EngineRequest → Json → Prop
  | compile request => request.WrittenAs
  | saAnalyze request | mlAnalyze request => request.WrittenAs

theorem EngineRequest.writtenAs (request : EngineRequest) : request.WrittenAs request.toJson := by
  cases request with
  | compile request => exact ⟨rfl, rfl, rfl⟩
  | saAnalyze request | mlAnalyze request => exact request.writtenAs

/-! ### What is read -/

theorem CompileRequest.ofJson?_toJson {request : CompileRequest}
    (hid : request.workflowId.value < 2 ^ 128) : ofJson? request.toJson = some request := by
  unfold ofJson? toJson
  refine record?_object ?_
  refine reads_required rfl (uuid?_ofUuid hid) ?_
  refine reads_required rfl rfl ?_
  exact reads_required rfl rfl rfl

theorem RuleSnapshot.ofEngineJson?_toEngineJson {rule : RuleSnapshot}
    (hid : rule.ruleId.value < 2 ^ 128) : ofEngineJson? rule.toEngineJson = some rule := by
  have htexts (texts : List String) : list? string? (ofList .string texts) = some texts :=
    list?_ofList fun _ _ => rfl
  unfold ofEngineJson? ofJsonAs? toEngineJson toJsonAs
  refine record?_object ?_
  refine reads_required rfl (uuid?_ofUuid hid) ?_
  refine reads_required rfl rfl ?_
  refine reads_required rfl rfl ?_
  refine reads_required rfl rfl ?_
  refine reads_required rfl rule.level.ofJson?_toJson ?_
  refine reads_required rfl (htexts rule.source) ?_
  exact reads_required rfl (htexts rule.sink) rfl

def AnalysisRequest.ids (request : AnalysisRequest) : List Uuid :=
  request.workflowId :: request.taskId :: request.rules.map RuleSnapshot.ruleId

theorem AnalysisRequest.ofJson?_toJson {request : AnalysisRequest}
    (hids : ∀ id ∈ request.ids, id.value < 2 ^ 128) (hmemory : request.maxMemory ≤ Digits.maxWord32)
    (htimeout : request.timeout ≤ Digits.maxWord32) : ofJson? request.toJson = some request := by
  simp only [ids, List.forall_mem_cons, List.forall_mem_map] at hids
  obtain ⟨hworkflow, htask, hrule⟩ := hids
  have hrules : list? RuleSnapshot.ofEngineJson? (ofList RuleSnapshot.toEngineJson request.rules) =
      some request.rules :=
    list?_ofList fun rule hmem => RuleSnapshot.ofEngineJson?_toEngineJson (hrule rule hmem)
  unfold ofJson? toJson
  refine record?_object ?_
  refine reads_required rfl (uuid?_ofUuid hworkflow) ?_
  refine reads_required rfl (uuid?_ofUuid htask) ?_
  refine reads_required rfl rfl ?_
  refine reads_required rfl rfl ?_
  refine reads_required rfl hrules ?_
  refine reads_required rfl (nat?_ofNat hmemory) ?_
  exact reads_required rfl (nat?_ofNat htimeout) rfl

namespace EngineRequest

/-- The request that an engine reads from a message on its queue. -/
def read? : Queue × Json → Option EngineRequest
  | (.saCompile, payload) => (CompileRequest.ofJson? payload).map compile
  | (.saEngine, payload) => (AnalysisRequest.ofJson? payload).map saAnalyze
  | (.mlEngine, payload) => (AnalysisRequest.ofJson? payload).map mlAnalyze
  | _ => none

def ids : EngineRequest → List Uuid
  | compile request => [request.workflowId]
  | saAnalyze request | mlAnalyze request => request.ids

def LimitsFit : EngineRequest → Prop
  | compile _ => True
  | saAnalyze request | mlAnalyze request =>
    request.maxMemory ≤ Digits.maxWord32 ∧ request.timeout ≤ Digits.maxWord32

/-- Engines read what has been written for them. -/
theorem read?_toJson {request : EngineRequest} (hids : ∀ id ∈ request.ids, id.value < 2 ^ 128)
    (hlimits : request.LimitsFit) : read? (request.queue, request.toJson) = some request := by
  cases request with
  | compile request =>
    have hback := CompileRequest.ofJson?_toJson (hids _ (List.mem_singleton_self _))
    simp only [read?, queue, toJson, hback, Option.map_some]
  | saAnalyze request | mlAnalyze request =>
    have hback := AnalysisRequest.ofJson?_toJson hids hlimits.1 hlimits.2
    simp only [read?, queue, toJson, hback, Option.map_some]

end EngineRequest

end ScanFlow
