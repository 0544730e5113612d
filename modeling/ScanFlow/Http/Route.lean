import ScanFlow.Http.Message

/-!
Routes: which path stands for what, and by which methods it may be asked.

The identifier in a path is any segment here; only one at the end of a path must not be
empty. Whether it is an identifier is asked after the method.
-/

namespace ScanFlow.Http

/-- What a path stands for, with the segments in place of identifiers. -/
inductive Route where
  | health
  | codes
  | codeWorkflows (code : String)
  | workflow (id : String)
  | task (id : String)
  | taskResults (task : String)
  | taskMerge (task : String)
  | audit (task finding : String)
  deriving DecidableEq, Repr

namespace Route

/-- The route of a path below the versioned interface. -/
def ofVersioned? : List String → Option Route
  | ["codes"] => some codes
  | ["codes", code, "workflows"] => some (codeWorkflows code)
  | ["workflows", id] => if id.isEmpty then none else some (workflow id)
  | ["tasks", id] => if id.isEmpty then none else some (task id)
  | ["tasks", id, "sa-results"] => some (taskResults id)
  | ["tasks", id, "merge"] => some (taskMerge id)
  | ["tasks", id, "detected-results", finding, "audit"] => some (audit id finding)
  | _ => none

def ofPath? (path : String) : Option Route :=
  match Text.parts '/' (withoutQuery path) with
  | ["", "health"] => some health
  | "" :: "api" :: "v0" :: rest => ofVersioned? rest
  | _ => none

/-- The methods by which a route may be asked. -/
def methods : Route → List String
  | health | workflow _ | task _ | taskResults _ => ["GET", "HEAD"]
  | codes | codeWorkflows _ | taskMerge _ => ["POST"]
  | audit .. => ["PUT"]

end Route

/-- What a request asks for, once the identifiers of its path have been read. -/
inductive Endpoint where
  | health
  | registerCode
  | startWorkflow (codeId : Uuid)
  | workflow (id : Uuid)
  | task (id : Uuid)
  | taskResults (taskId : Uuid)
  | mergeTask (taskId : Uuid)
  | auditFinding (taskId findingId : Uuid)
  deriving DecidableEq, Repr

/-- Reads the identifiers of a route. -/
def Route.endpoint? : Route → Option Endpoint
  | .health => some .health
  | .codes => some .registerCode
  | .codeWorkflows code => (segmentId? code).map .startWorkflow
  | .workflow id => (segmentId? id).map .workflow
  | .task id => (segmentId? id).map .task
  | .taskResults id => (segmentId? id).map .taskResults
  | .taskMerge id => (segmentId? id).map .mergeTask
  | .audit id finding => do
    let taskId ← segmentId? id
    let findingId ← segmentId? finding
    return .auditFinding taskId findingId

end ScanFlow.Http
