import ScanFlow.Http.Body
import ScanFlow.Http.ErrorReport
import ScanFlow.Http.Route
import ScanFlow.Orchestrator.Review
import ScanFlow.Orchestrator.Submit
import ScanFlow.Orchestrator.Summarize

/-!
The HTTP interface of the orchestrator.

A request is refused for the first of these reasons: its body is too long, its path has no
route, its method is not allowed there, its path has no identifier where one should be.
Then its body is read and checked, and only then a service is called.
-/

namespace ScanFlow.Http

/-- The longest body of a request, in bytes. -/
def maxBodyBytes : Nat := 1024 * 1024

/-- The version that the health report names. -/
def version : String := "0.1.0"

/-! ### Bodies -/

/-- The body of a submission, with every field optional. -/
structure SubmissionForm where
  shape : Option Shape
  trigger : Option String
  templateId : Option Uuid
  timeout : Option Nat
  maxMemory : Option Nat
  deriving DecidableEq, Repr

namespace SubmissionForm

/-- What set off a workflow that does not say so. -/
def defaultTrigger : String := "manual"

def fields : List BodyField :=
  let isNumber (j : Json) : Bool := (j.nat? Digits.maxWord32).isSome
  [(BodyField.word "workflowType" fun word => (Shape.ofWire? word).isSome).optional,
    (BodyField.value "trigger" fun j => j.string?.isSome).optional,
    (BodyField.value "ruleTemplateId" fun j => j.uuid?.isSome).optional,
    (BodyField.value "timeout" isNumber).optional,
    (BodyField.value "maxMemory" isNumber).optional]

def ofJson? : Json → Option SubmissionForm := Json.record? do
  let shape ← Json.defaulted "workflowType" (Json.option? Shape.ofJson?) none
  let trigger ← Json.defaulted "trigger" (Json.option? Json.string?) none
  let templateId ← Json.defaulted "ruleTemplateId" (Json.option? Json.uuid?) none
  let timeout ← Json.defaulted "timeout" (Json.option? (Json.nat? Digits.maxWord32)) none
  let maxMemory ← Json.defaulted "maxMemory" (Json.option? (Json.nat? Digits.maxWord32)) none
  return { shape, trigger, templateId, timeout, maxMemory }

def faults (form : SubmissionForm) : List FieldFault :=
  match form.trigger with
  | some trigger => lengthFault "trigger" trigger 1 64
  | none => []

/-- Limits of which only some are given are filled up from the defaults. -/
def limits (form : SubmissionForm) (defaults : EngineLimits) : Option EngineLimits :=
  if form.timeout.isSome || form.maxMemory.isSome then
    some
      { timeoutMinutes := form.timeout.getD defaults.timeoutMinutes
        maxMemoryGb := form.maxMemory.getD defaults.maxMemoryGb }
  else none

def submission (form : SubmissionForm) (codeId : Uuid) (defaults : EngineLimits) :
    Submission :=
  { codeId
    shape := form.shape
    trigger := form.trigger.getD defaultTrigger
    templateId := form.templateId
    limits := form.limits defaults }

end SubmissionForm

/-- The fields of an uploaded archive. -/
def uploadFields : List BodyField :=
  [.value "name" fun j => j.string?.isSome,
    .value "size" fun j => (j.nat? Digits.maxWord64).isSome,
    .value "md5" fun j => j.string?.isSome,
    .value "objectKey" fun j => j.string?.isSome]

/-- The fields of a reviewer's decision. -/
def auditFields : List BodyField :=
  [.word "handleType" fun word => (HandleType.ofWire? word).isSome,
    .word "auditLevel" fun word => (AuditLevel.ofWire? word).isSome,
    (BodyField.value "memo" fun j => j.string?.isSome).missable]

/-- Reads and checks the body of a request. -/
def checkedBody {α : Type} (fields : List BodyField) (read : Json → Option α)
    (faults : α → List FieldFault) (request : Request) : Except ServiceError α := do
  if !request.contentType.any isJsonType then throw BodyFault.contentType.toServiceError
  match readBody fields read request.body with
  | .error fault => throw fault.toServiceError
  | .ok a =>
    refuseFaults (faults a)
    return a

/-! ### Requests -/

/-- A server: the orchestrator behind it, the kind of its blob storage, and the variables
of its process. -/
structure Server where
  orchestrator : Orchestrator
  backend : StorageBackend
  vars : Variables

namespace Server

def healthReport (server : Server) : Json :=
  .object
    [("status", .string "ok"), ("version", .string version),
      ("storage", server.backend.toJson)]

/-- Answers an endpoint with a status and a value. -/
def answer (server : Server) (request : Request) : Endpoint → Program (Nat × Json)
  | .health => return (200, server.healthReport)
  | .registerCode => do
    let upload ← Program.ofExcept
      (checkedBody uploadFields CodeUpload.ofJson? CodeUpload.faults request)
    let code ← Orchestrator.registerCode upload
    return (201, code.toJson)
  | .startWorkflow codeId => do
    let form ← Program.ofExcept
      (checkedBody SubmissionForm.fields SubmissionForm.ofJson? SubmissionForm.faults request)
    let workflow ← server.orchestrator.start
      (form.submission codeId server.orchestrator.defaultLimits)
    return (201, workflow.toJson)
  | .workflow id => do
    let workflow ← Program.workflow id
    return (200, workflow.toJson)
  | .task id => do
    let task ← Program.task id
    return (200, task.toJson)
  | .taskResults taskId => do
    let reports ← Program.taskReports taskId
    return (200, .ofList GroupReport.toJson reports)
  | .mergeTask taskId => do
    let summary ← server.orchestrator.remerge taskId
    return (200, summary.toJson)
  | .auditFinding taskId findingId => do
    let audit ← Program.ofExcept
      (checkedBody auditFields AuditRequest.ofJson? AuditRequest.faults request)
    let finding ← Orchestrator.auditFinding taskId findingId audit
    return (200, finding.toJson)

/-- The response to an endpoint, an error included. -/
def respondTo (server : Server) (request : Request) (endpoint : Endpoint) :
    Program Response := do
  match ← (server.answer request endpoint).attempt with
  | .ok (status, value) => return { status, content := .json value }
  | .error e => return (ErrorReport.ofError server.vars e).response

/-- The response to a request by any method. -/
def fullResponse (server : Server) (request : Request) : Program Response := do
  if maxBodyBytes < request.body.utf8ByteSize then
    return { status := 413, content := .text "length limit exceeded" }
  match Route.ofPath? request.path with
  | none => return { status := 404, content := .empty }
  | some route =>
    if !route.methods.contains request.method then return { status := 405, content := .empty }
    else
      match route.endpoint? with
      | none => return { status := 400, content := .text "Invalid URL" }
      | some endpoint => server.respondTo request endpoint

/-- The response to a request. One to a `HEAD` request has no content. -/
def respond (server : Server) (request : Request) : Program Response := do
  let response ← server.fullResponse request
  return if request.method = "HEAD" then { response with content := .empty } else response

end Server

end ScanFlow.Http
