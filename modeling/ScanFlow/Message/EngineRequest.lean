import ScanFlow.Queue
import ScanFlow.Rule

/-!
Requests to the engines.

A compile request names the source archive. An analysis request, for either engine, names
the compiled artifact, the rules to look for and the limits to keep.
-/

namespace ScanFlow

/-- A request to compile a source archive. -/
structure CompileRequest where
  workflowId : Uuid
  source : String
  filename : String
  deriving DecidableEq, Repr

/-- A request to analyse a compiled artifact; memory in gigabytes, timeout in minutes. -/
structure AnalysisRequest where
  workflowId : Uuid
  taskId : Uuid
  source : String
  filename : String
  rules : List RuleSnapshot
  maxMemory : Nat
  timeout : Nat
  deriving DecidableEq, Repr

/-- A request to one of the engines. -/
inductive EngineRequest where
  | compile (request : CompileRequest)
  | saAnalyze (request : AnalysisRequest)
  | mlAnalyze (request : AnalysisRequest)
  deriving DecidableEq, Repr

namespace CompileRequest

def toJson (request : CompileRequest) : Json :=
  .object
    [("workflowId", .ofUuid request.workflowId), ("source", .string request.source),
      ("filename", .string request.filename)]

def ofJson? : Json → Option CompileRequest := Json.record? do
  let workflowId ← Json.required "workflowId" Json.uuid?
  let source ← Json.required "source" Json.string?
  let filename ← Json.required "filename" Json.string?
  return { workflowId, source, filename }

instance : Wire CompileRequest := ⟨toJson, ofJson?⟩

end CompileRequest

/-- A rule as the engines are given it. -/
def RuleSnapshot.toEngineJson : RuleSnapshot → Json := RuleSnapshot.toJsonAs "id"

/-- Reads a rule as the engines are given it. -/
def RuleSnapshot.ofEngineJson? : Json → Option RuleSnapshot := RuleSnapshot.ofJsonAs? "id"

namespace AnalysisRequest

def toJson (request : AnalysisRequest) : Json :=
  .object
    [("workflowId", .ofUuid request.workflowId), ("taskId", .ofUuid request.taskId),
      ("source", .string request.source), ("filename", .string request.filename),
      ("rules", .ofList RuleSnapshot.toEngineJson request.rules),
      ("maxMemory", .ofNat request.maxMemory), ("timeout", .ofNat request.timeout)]

def ofJson? : Json → Option AnalysisRequest := Json.record? do
  let workflowId ← Json.required "workflowId" Json.uuid?
  let taskId ← Json.required "taskId" Json.uuid?
  let source ← Json.required "source" Json.string?
  let filename ← Json.required "filename" Json.string?
  let rules ← Json.required "rules" (Json.list? RuleSnapshot.ofEngineJson?)
  let maxMemory ← Json.required "maxMemory" (Json.nat? Digits.maxWord32)
  let timeout ← Json.required "timeout" (Json.nat? Digits.maxWord32)
  return { workflowId, taskId, source, filename, rules, maxMemory, timeout }

instance : Wire AnalysisRequest := ⟨toJson, ofJson?⟩

end AnalysisRequest

namespace EngineRequest

/-- The queue of the engine that is asked. -/
def queue : EngineRequest → Queue
  | compile _ => .saCompile
  | saAnalyze _ => .saEngine
  | mlAnalyze _ => .mlEngine

def toJson : EngineRequest → Json
  | compile request => request.toJson
  | saAnalyze request => request.toJson
  | mlAnalyze request => request.toJson

end EngineRequest

end ScanFlow
