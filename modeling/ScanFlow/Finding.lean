import ScanFlow.Facade
import ScanFlow.Rule

/-!
Findings of the static analysis and verdicts of reviewers on them.

A finding is a path of statements from a source to a sink. Its facade is the place of
the last statement. Findings are stored on their own; a group names the findings of one
rule by their identifiers, in the order of the report.
-/

namespace ScanFlow

/-- One statement on the path of a finding. -/
structure PathStep where
  file : String
  function : String := ""
  jimpleStmt : String := ""
  javaStmt : String := ""
  jspStmt : String := ""
  line : Nat
  jspLine : Option Nat := none
  javaClass : Option String := none
  jspFile : Option String := none
  deriving DecidableEq, Repr

/-- What a reviewer decided about a finding. -/
inductive HandleType where
  | confirmed
  | falsePositive
  | wontFix
  deriving DecidableEq, Repr

/-- How binding a reviewer's decision is. -/
inductive AuditLevel where
  | mandatory
  | recommended
  deriving DecidableEq, Repr

/-- A reviewer's decision, the only part of a finding that changes. -/
structure Audit where
  handleType : HandleType
  auditLevel : AuditLevel
  memo : String
  auditedAt : Timestamp
  deriving DecidableEq, Repr

/-- A stored finding. -/
structure Finding where
  id : Uuid
  taskId : Uuid
  sourceSig : String
  sinkSig : String
  path : List PathStep
  facade : String
  audit : Option Audit
  deriving DecidableEq, Repr

/-- The findings of one rule in one task, by identifier. -/
structure FindingGroup where
  id : Uuid
  taskId : Uuid
  ruleId : String
  ruleName : String
  ruleCwe : String
  ruleCategory : String
  ruleLevel : RuleLevel
  findingIds : List Uuid
  deriving DecidableEq, Repr

/-- A group together with its findings. -/
structure GroupReport where
  group : FindingGroup
  findings : List Finding
  deriving DecidableEq, Repr

namespace PathStep

/-- An optional member that is left out where there is no value. -/
def member (name : String) (value : Option Json) : List (String × Json) :=
  match value with
  | some j => [(name, j)]
  | none => []

def toJson (step : PathStep) : Json :=
  .object
    ([("file", .string step.file), ("function", .string step.function),
      ("jimpleStmt", .string step.jimpleStmt), ("javaStmt", .string step.javaStmt),
      ("jspStmt", .string step.jspStmt), ("line", .ofNat step.line)] ++
      member "jspLine" (step.jspLine.map .ofNat) ++
      member "javaClass" (step.javaClass.map .string) ++
      member "jspFile" (step.jspFile.map .string))

def ofJson? : Json → Option PathStep := Json.record? do
  let file ← Json.required "file" Json.string?
  let function ← Json.defaulted "function" Json.string? ""
  let jimpleStmt ← Json.defaulted "jimpleStmt" Json.string? ""
  let javaStmt ← Json.defaulted "javaStmt" Json.string? ""
  let jspStmt ← Json.defaulted "jspStmt" Json.string? ""
  let line ← Json.required "line" (Json.nat? Digits.maxWord32)
  let jspLine ← Json.defaulted "jspLine" (Json.option? (Json.nat? Digits.maxWord32)) none
  let javaClass ← Json.defaulted "javaClass" (Json.option? Json.string?) none
  let jspFile ← Json.defaulted "jspFile" (Json.option? Json.string?) none
  return { file, function, jimpleStmt, javaStmt, jspStmt, line, jspLine, javaClass, jspFile }

instance : Wire PathStep := ⟨toJson, ofJson?⟩

end PathStep

namespace HandleType

def wire : HandleType → String
  | confirmed => "confirmed"
  | falsePositive => "false_positive"
  | wontFix => "wont_fix"

def ofWire? : String → Option HandleType
  | "confirmed" => some confirmed
  | "false_positive" => some falsePositive
  | "wont_fix" => some wontFix
  | _ => none

def toJson (t : HandleType) : Json := .string t.wire

def ofJson? : Json → Option HandleType := Json.word? ofWire?

instance : Wire HandleType := ⟨toJson, ofJson?⟩

end HandleType

namespace AuditLevel

def wire : AuditLevel → String
  | mandatory => "mandatory"
  | recommended => "recommended"

def ofWire? : String → Option AuditLevel
  | "mandatory" => some mandatory
  | "recommended" => some recommended
  | _ => none

def toJson (level : AuditLevel) : Json := .string level.wire

def ofJson? : Json → Option AuditLevel := Json.word? ofWire?

instance : Wire AuditLevel := ⟨toJson, ofJson?⟩

end AuditLevel

namespace Audit

def toJson (audit : Audit) : Json :=
  .object
    [("handle_type", audit.handleType.toJson), ("audit_level", audit.auditLevel.toJson),
      ("memo", .string audit.memo), ("audited_at", .ofTimestamp audit.auditedAt)]

def ofJson? : Json → Option Audit := Json.record? do
  let handleType ← Json.required "handle_type" HandleType.ofJson?
  let auditLevel ← Json.required "audit_level" AuditLevel.ofJson?
  let memo ← Json.defaulted "memo" Json.string? ""
  let auditedAt ← Json.required "audited_at" Json.timestamp?
  return { handleType, auditLevel, memo, auditedAt }

instance : Wire Audit := ⟨toJson, ofJson?⟩

end Audit

/-- The facade of a path is that of its last step; an empty path has an empty one. -/
def Facade.ofPath (path : List PathStep) : String :=
  match path.getLast? with
  | some step => Facade.render step.file step.line
  | none => ""

namespace Finding

/-- A new finding, not yet audited. -/
def fresh (id taskId : Uuid) (sourceSig sinkSig : String) (path : List PathStep) : Finding :=
  { id, taskId, sourceSig, sinkSig, path, facade := Facade.ofPath path, audit := none }

def toJson (finding : Finding) : Json :=
  .object
    [("id", .ofUuid finding.id), ("task_id", .ofUuid finding.taskId),
      ("source_sig", .string finding.sourceSig), ("sink_sig", .string finding.sinkSig),
      ("path", .ofList PathStep.toJson finding.path), ("facade", .string finding.facade),
      ("audit", .ofOption Audit.toJson finding.audit)]

def ofJson? : Json → Option Finding := Json.record? do
  let id ← Json.required "id" Json.uuid?
  let taskId ← Json.required "task_id" Json.uuid?
  let sourceSig ← Json.required "source_sig" Json.string?
  let sinkSig ← Json.required "sink_sig" Json.string?
  let path ← Json.required "path" (Json.list? PathStep.ofJson?)
  let facade ← Json.required "facade" Json.string?
  let audit ← Json.optional "audit" Audit.ofJson?
  return { id, taskId, sourceSig, sinkSig, path, facade, audit }

instance : Wire Finding := ⟨toJson, ofJson?⟩

end Finding

namespace FindingGroup

def members (group : FindingGroup) : List (String × Json) :=
  [("id", .ofUuid group.id), ("task_id", .ofUuid group.taskId),
    ("rule_id", .string group.ruleId), ("rule_name", .string group.ruleName),
    ("rule_cwe", .string group.ruleCwe), ("rule_category", .string group.ruleCategory),
    ("rule_level", group.ruleLevel.toJson),
    ("detected_result_ids", .ofList .ofUuid group.findingIds)]

def toJson (group : FindingGroup) : Json := .object group.members

def reader : Json.FieldReader FindingGroup := do
  let id ← Json.required "id" Json.uuid?
  let taskId ← Json.required "task_id" Json.uuid?
  let ruleId ← Json.required "rule_id" Json.string?
  let ruleName ← Json.required "rule_name" Json.string?
  let ruleCwe ← Json.required "rule_cwe" Json.string?
  let ruleCategory ← Json.required "rule_category" Json.string?
  let ruleLevel ← Json.required "rule_level" RuleLevel.ofJson?
  let findingIds ← Json.required "detected_result_ids" (Json.list? Json.uuid?)
  return { id, taskId, ruleId, ruleName, ruleCwe, ruleCategory, ruleLevel, findingIds }

def ofJson? : Json → Option FindingGroup := Json.record? reader

instance : Wire FindingGroup := ⟨toJson, ofJson?⟩

end FindingGroup

namespace GroupReport

/-- The members of the group, followed by its findings. -/
def toJson (report : GroupReport) : Json :=
  .object (report.group.members ++
    [("detected_results", .ofList Finding.toJson report.findings)])

def ofJson? : Json → Option GroupReport := Json.openRecord? do
  let group ← FindingGroup.reader
  let findings ← Json.required "detected_results" (Json.list? Finding.ofJson?)
  return { group, findings }

instance : Wire GroupReport := ⟨toJson, ofJson?⟩

end GroupReport

end ScanFlow
