import ScanFlow.Merge.Correlate
import ScanFlow.Program

/-!
The orchestrator: what its services share, and the records that they read back.
-/

namespace ScanFlow

/-- What the services of an orchestrator share: the lifetime of the URLs that engines are
given, in seconds, the thresholds of merges, and the limits of submissions that choose
none. -/
structure Orchestrator where
  urlLifetime : Nat
  thresholds : Thresholds
  defaultLimits : EngineLimits
  deriving DecidableEq, Repr

namespace Orchestrator

/-- The orchestrator of some settings, if their thresholds are valid. -/
def ofSettings (settings : Settings) : Except ServiceError Orchestrator :=
  let thresholds : Thresholds := ⟨settings.mergeThresholdLow, settings.mergeThresholdHigh⟩
  match thresholds.validate with
  | .ok () =>
    .ok
      { urlLifetime := settings.blobUrlExpirySecs
        thresholds
        defaultLimits := ⟨settings.engineTimeoutMinutes, settings.engineMaxMemoryGb⟩ }
  | .error e => .error (.invalidInput e.message)

end Orchestrator

namespace Program

/-- The workflow of an id. -/
def workflow (id : Uuid) : Program Workflow :=
  require (.findWorkflow id) (.notFound s!"workflow {id}")

/-- The task of an id. -/
def task (id : Uuid) : Program Task := require (.findTask id) (.notFound s!"task {id}")

/-- The groups of a task that is there, with their findings. -/
def taskReports (id : Uuid) : Program (List GroupReport) := do
  let task ← task id
  store (.groupReports task.id)

/-- Ends a workflow, unless it has ended before. -/
def finish (id : Uuid) (status : Workflow.Status) : Program Unit := do
  let _ ← store (.finish id status)

end Program

end ScanFlow
