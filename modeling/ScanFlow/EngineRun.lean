import ScanFlow.ServiceError

/-!
The two engine runs of a task: static analysis and machine learning.

A run is pending, then running, then ended with success or with an exception; a pending
run may also end with an exception at once. Starting and finishing a run are refused
where the table of transitions does not allow them. A finished run has progress 100.
-/

namespace ScanFlow

/-- Where an engine run stands. -/
inductive RunStatus where
  | pending
  | running
  | success
  | exception
  deriving DecidableEq, Repr

namespace RunStatus

def isTerminal : RunStatus → Bool
  | success | exception => true
  | pending | running => false

/-- The transitions of a run. -/
def canBecome : RunStatus → RunStatus → Bool
  | pending, running => true
  | pending, exception => true
  | running, success => true
  | running, exception => true
  | _, _ => false

def wire : RunStatus → String
  | pending => "pending"
  | running => "running"
  | success => "success"
  | exception => "exception"

def ofWire? : String → Option RunStatus
  | "pending" => some pending
  | "running" => some running
  | "success" => some success
  | "exception" => some exception
  | _ => none

/-- What is said about a word that is no status. -/
def refusal (word : String) : String := s!"Invalid sub-pipeline status: {word}"

def become (status next : RunStatus) : Except ServiceError RunStatus :=
  if status.canBecome next then .ok next
  else .error (.invalidTransition "sub-pipeline" status.wire next.wire)

def ofSuccess (succeeded : Bool) : RunStatus := if succeeded then success else exception

def toJson (status : RunStatus) : Json := .string status.wire

def ofJson? : Json → Option RunStatus := Json.word? ofWire?

instance : Wire RunStatus := ⟨toJson, ofJson?⟩

end RunStatus

/-- The progress of a finished run. -/
def finishedProgress : Nat := 100

/-- The progress of the static analysis once there is a compiled artifact. -/
def compiledProgress : Nat := 20

/-- The static analysis of a task. -/
structure SaRun where
  status : RunStatus
  progress : Nat
  startedAt : Option Timestamp
  endedAt : Option Timestamp
  resultIds : List Uuid
  /-- A word of 32 bits: below `2 ^ 32`, as no report of a run can reach that many findings. -/
  weaknessCount : Nat
  deriving DecidableEq, Repr

/-- The machine-learning run of a task. -/
structure MlRun where
  status : RunStatus
  progress : Nat
  startedAt : Option Timestamp
  endedAt : Option Timestamp
  rawResult : Option MlReport
  deriving DecidableEq

namespace SaRun

def initial : SaRun :=
  { status := .pending, progress := 0, startedAt := none, endedAt := none, resultIds := [],
    weaknessCount := 0 }

def started (run : SaRun) (moment : Timestamp) : Except ServiceError SaRun := do
  let status ← run.status.become .running
  return { run with status, startedAt := some moment }

def finished (run : SaRun) (succeeded : Bool) (resultIds : List Uuid) (weaknessCount : Nat)
    (moment : Timestamp) : Except ServiceError SaRun := do
  let status ← run.status.become (.ofSuccess succeeded)
  return { status, progress := finishedProgress, startedAt := run.startedAt,
           endedAt := some moment, resultIds, weaknessCount }

def toJson (run : SaRun) : Json :=
  .object
    [("status", run.status.toJson), ("progress", .ofNat run.progress),
      ("started_at", .ofOption .ofTimestamp run.startedAt),
      ("ended_at", .ofOption .ofTimestamp run.endedAt),
      ("result_ids", .ofList .ofUuid run.resultIds),
      ("weakness_count", .ofNat run.weaknessCount)]

def ofJson? : Json → Option SaRun := Json.record? do
  let status ← Json.required "status" RunStatus.ofJson?
  let progress ← Json.required "progress" (Json.nat? Digits.maxWord8)
  let startedAt ← Json.optional "started_at" Json.timestamp?
  let endedAt ← Json.optional "ended_at" Json.timestamp?
  let resultIds ← Json.required "result_ids" (Json.list? Json.uuid?)
  let weaknessCount ← Json.required "weakness_count" (Json.nat? Digits.maxWord32)
  return { status, progress, startedAt, endedAt, resultIds, weaknessCount }

instance : Wire SaRun := ⟨toJson, ofJson?⟩

end SaRun

namespace MlRun

def initial : MlRun :=
  { status := .pending, progress := 0, startedAt := none, endedAt := none, rawResult := none }

def started (run : MlRun) (moment : Timestamp) : Except ServiceError MlRun := do
  let status ← run.status.become .running
  return { run with status, startedAt := some moment }

def finished (run : MlRun) (succeeded : Bool) (rawResult : Option MlReport)
    (moment : Timestamp) : Except ServiceError MlRun := do
  let status ← run.status.become (.ofSuccess succeeded)
  return { status, progress := finishedProgress, startedAt := run.startedAt,
           endedAt := some moment, rawResult }

def toJson (run : MlRun) : Json :=
  .object
    [("status", run.status.toJson), ("progress", .ofNat run.progress),
      ("started_at", .ofOption .ofTimestamp run.startedAt),
      ("ended_at", .ofOption .ofTimestamp run.endedAt),
      ("raw_result", .ofOption MlReport.toJson run.rawResult)]

def ofJson? : Json → Option MlRun := Json.record? do
  let status ← Json.required "status" RunStatus.ofJson?
  let progress ← Json.required "progress" (Json.nat? Digits.maxWord8)
  let startedAt ← Json.optional "started_at" Json.timestamp?
  let endedAt ← Json.optional "ended_at" Json.timestamp?
  let rawResult ← Json.optional "raw_result" MlReport.ofJson?
  return { status, progress, startedAt, endedAt, rawResult }

instance : Wire MlRun := ⟨toJson, ofJson?⟩

end MlRun

end ScanFlow
