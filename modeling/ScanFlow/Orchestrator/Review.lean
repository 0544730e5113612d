import ScanFlow.Orchestrator.Basic

/-!
Recording what reviewers decide about findings.
-/

namespace ScanFlow

/-- A reviewer's decision as it is handed in. -/
structure AuditRequest where
  handleType : HandleType
  auditLevel : AuditLevel
  memo : String
  deriving DecidableEq, Repr

namespace AuditRequest

def ofJson? : Json → Option AuditRequest := Json.record? do
  let handleType ← Json.required "handleType" HandleType.ofJson?
  let auditLevel ← Json.required "auditLevel" AuditLevel.ofJson?
  let memo ← Json.defaulted "memo" Json.string? ""
  return { handleType, auditLevel, memo }

def faults (request : AuditRequest) : List FieldFault := lengthFault "memo" request.memo 0 2000

/-- The decision at the moment of its record. -/
def audit (request : AuditRequest) (moment : Timestamp) : Audit :=
  { handleType := request.handleType
    auditLevel := request.auditLevel
    memo := request.memo
    auditedAt := moment }

end AuditRequest

/-- Records a decision on a finding of a task, and counts the decisions of the task
anew. -/
def Orchestrator.auditFinding (taskId findingId : Uuid) (request : AuditRequest) :
    Program Finding := do
  Program.ofExcept (refuseFaults request.faults)
  let missing : ServiceError := .notFound s!"detected result {findingId}"
  let finding ← Program.require (.findFinding findingId) missing
  if finding.taskId ≠ taskId then Program.fail missing
  else
    let now ← Program.clock
    let audit := request.audit now
    if ← Program.store (.setAudit finding.id audit) then
      let count ← Program.store (.countAudited taskId)
      Program.storeOr (.setAuditCount taskId count)
      return { finding with audit := some audit }
    else Program.fail missing

end ScanFlow
