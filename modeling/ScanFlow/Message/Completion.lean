import ScanFlow.Finding
import ScanFlow.Queue
import ScanFlow.ServiceError
import ScanFlow.Verdict

/-!
Completion messages from the engines.

A message is decoded by the queue it came from and then validated: one that reports
success must carry a result, a compiled artifact must have a key, every finding a path,
and every score of an analysed file must be a probability. What a failure carries is not
looked at.
-/

namespace ScanFlow

/-- The artifact that a compiler produced. -/
structure CompileArtifact where
  name : String
  size : Nat
  objectKey : String
  md5 : String
  deriving DecidableEq, Repr

/-- The answer of the compiler. -/
structure CompileFinished where
  workflowId : Uuid
  success : Bool
  artifact : Option CompileArtifact
  deriving DecidableEq, Repr

/-- A finding as the static analysis reports it. -/
structure SaFinding where
  sourceSig : String
  sinkSig : String
  path : List PathStep
  deriving DecidableEq, Repr

/-- What the static analysis reports for one rule. -/
structure SaRuleResult where
  ruleName : String
  ruleCwe : String
  ruleCategory : String
  ruleLevel : RuleLevel
  findings : List SaFinding
  deriving DecidableEq, Repr

/-- The answer of the static analysis, by rule id. -/
structure SaFinished where
  workflowId : Uuid
  taskId : Uuid
  success : Bool
  result : Option (NameMap SaRuleResult)
  deriving DecidableEq

/-- The answer of the machine-learning engine. -/
structure MlFinished where
  workflowId : Uuid
  taskId : Uuid
  success : Bool
  result : Option MlReport
  deriving DecidableEq

/-- A message on a completion queue. -/
inductive Completion where
  | compile (message : CompileFinished)
  | sa (message : SaFinished)
  | ml (message : MlFinished)
  deriving DecidableEq

namespace CompileArtifact

def toJson (artifact : CompileArtifact) : Json :=
  .object
    [("name", .string artifact.name), ("size", .ofNat artifact.size),
      ("objectKey", .string artifact.objectKey), ("md5", .string artifact.md5)]

def ofJson? : Json → Option CompileArtifact := Json.record? do
  let name ← Json.required "name" Json.string?
  let size ← Json.required "size" (Json.nat? Digits.maxWord64)
  let objectKey ← Json.required "objectKey" Json.string?
  let md5 ← Json.required "md5" Json.string?
  return { name, size, objectKey, md5 }

instance : Wire CompileArtifact := ⟨toJson, ofJson?⟩

end CompileArtifact

namespace CompileFinished

def toJson (message : CompileFinished) : Json :=
  .object
    [("workflowId", .ofUuid message.workflowId), ("success", .bool message.success),
      ("compileResult", .ofOption CompileArtifact.toJson message.artifact)]

def ofJson? : Json → Option CompileFinished := Json.record? do
  let workflowId ← Json.required "workflowId" Json.uuid?
  let success ← Json.required "success" Json.bool?
  let artifact ← Json.defaulted "compileResult" (Json.option? CompileArtifact.ofJson?) none
  return { workflowId, success, artifact }

def validate (message : CompileFinished) : Except ServiceError Unit :=
  if !message.success then .ok ()
  else
    match message.artifact with
    | none => .error (.invalidMessage "successful compile-finish without compileResult")
    | some artifact =>
      if Text.isAllBlank artifact.objectKey then
        .error (.invalidMessage "compileResult.objectKey is empty")
      else .ok ()

instance : Wire CompileFinished := ⟨toJson, ofJson?⟩

end CompileFinished

namespace SaFinding

def toJson (finding : SaFinding) : Json :=
  .object
    [("sourceSig", .string finding.sourceSig), ("sinkSig", .string finding.sinkSig),
      ("path", .ofList PathStep.toJson finding.path)]

def ofJson? : Json → Option SaFinding := Json.record? do
  let sourceSig ← Json.required "sourceSig" Json.string?
  let sinkSig ← Json.required "sinkSig" Json.string?
  let path ← Json.required "path" (Json.list? PathStep.ofJson?)
  return { sourceSig, sinkSig, path }

instance : Wire SaFinding := ⟨toJson, ofJson?⟩

end SaFinding

namespace SaRuleResult

def toJson (result : SaRuleResult) : Json :=
  .object
    [("ruleName", .string result.ruleName), ("ruleCwe", .string result.ruleCwe),
      ("ruleCategory", .string result.ruleCategory), ("ruleLevel", result.ruleLevel.toJson),
      ("detectedResults", .ofList SaFinding.toJson result.findings)]

def ofJson? : Json → Option SaRuleResult := Json.record? do
  let ruleName ← Json.required "ruleName" Json.string?
  let ruleCwe ← Json.required "ruleCwe" Json.string?
  let ruleCategory ← Json.defaulted "ruleCategory" Json.string? ""
  let ruleLevel ← Json.required "ruleLevel" RuleLevel.ofJson?
  let findings ← Json.defaulted "detectedResults" (Json.list? SaFinding.ofJson?) []
  return { ruleName, ruleCwe, ruleCategory, ruleLevel, findings }

instance : Wire SaRuleResult := ⟨toJson, ofJson?⟩

end SaRuleResult

namespace SaFinished

def toJson (message : SaFinished) : Json :=
  .object
    [("workflowId", .ofUuid message.workflowId), ("taskId", .ofUuid message.taskId),
      ("success", .bool message.success),
      ("result", .ofOption (.ofNameMap SaRuleResult.toJson) message.result)]

def ofJson? : Json → Option SaFinished := Json.record? do
  let workflowId ← Json.required "workflowId" Json.uuid?
  let taskId ← Json.required "taskId" Json.uuid?
  let success ← Json.required "success" Json.bool?
  let result ←
    Json.defaulted "result" (Json.option? (Json.nameMap? SaRuleResult.ofJson?)) none
  return { workflowId, taskId, success, result }

/-- The first rule, in the order of rule ids, with a finding that has no path. -/
def pathlessRule? (result : NameMap SaRuleResult) : Option String :=
  (result.entries.find? fun (_, rule) =>
    rule.findings.any fun finding => finding.path.isEmpty).map (·.1)

def validate (message : SaFinished) : Except ServiceError Unit :=
  if !message.success then .ok ()
  else
    match message.result with
    | none => .error (.invalidMessage "successful sa-finish without result")
    | some result =>
      match pathlessRule? result with
      | some ruleId => .error (.invalidMessage s!"rule {ruleId} has a finding with an empty path")
      | none => .ok ()

/-- The number of findings that are reported. -/
def findingCount (message : SaFinished) : Nat :=
  match message.result with
  | none => 0
  | some result => (result.values.flatMap fun rule => rule.findings).length

instance : Wire SaFinished := ⟨toJson, ofJson?⟩

end SaFinished

namespace MlFinished

def toJson (message : MlFinished) : Json :=
  .object
    [("workflowId", .ofUuid message.workflowId), ("taskId", .ofUuid message.taskId),
      ("success", .bool message.success),
      ("result", .ofOption MlReport.toJson message.result)]

def ofJson? : Json → Option MlFinished := Json.record? do
  let workflowId ← Json.required "workflowId" Json.uuid?
  let taskId ← Json.required "taskId" Json.uuid?
  let success ← Json.required "success" Json.bool?
  let result ← Json.defaulted "result" (Json.option? MlReport.ofJson?) none
  return { workflowId, taskId, success, result }

def validate (message : MlFinished) : Except ServiceError Unit :=
  if !message.success then .ok ()
  else
    match message.result with
    | none => .error (.invalidMessage "successful ml-finish without result")
    | some result =>
      match result.scores.find? fun score => !score.probability.isProbability with
      | some score =>
        .error (.invalidMessage (s!"probability {score.probability.positional} for " ++
          s!"{score.ruleKey} at {score.path} is outside [0, 1]"))
      | none => .ok ()

instance : Wire MlFinished := ⟨toJson, ofJson?⟩

end MlFinished

namespace Completion

def validate : Completion → Except ServiceError Unit
  | compile message => message.validate
  | sa message => message.validate
  | ml message => message.validate

/-- Decodes the body of a message by the queue it came from. -/
def decode (queue : Queue) (body : Json) : Except ServiceError Completion :=
  let orMalformed (decoded : Option Completion) : Except ServiceError Completion :=
    match decoded with
    | some message => .ok message
    | none => .error .malformedMessage
  match queue with
  | .compileFinish => orMalformed ((CompileFinished.ofJson? body).map compile)
  | .saFinish => orMalformed ((SaFinished.ofJson? body).map sa)
  | .mlFinish => orMalformed ((MlFinished.ofJson? body).map ml)
  | other => .error (.invalidMessage s!"{other.wire} is not a completion queue")

/-- Decodes and validates a message. -/
def parse (queue : Queue) (body : Json) : Except ServiceError Completion := do
  let message ← decode queue body
  message.validate
  return message

def workflowId : Completion → Uuid
  | compile message => message.workflowId
  | sa message => message.workflowId
  | ml message => message.workflowId

def queue : Completion → Queue
  | compile _ => .compileFinish
  | sa _ => .saFinish
  | ml _ => .mlFinish

def toJson : Completion → Json
  | compile message => message.toJson
  | sa message => message.toJson
  | ml message => message.toJson

end Completion

end ScanFlow
