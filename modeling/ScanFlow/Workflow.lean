import ScanFlow.ServiceError
import ScanFlow.Task

/-!
Workflows: the shapes a scan can have, and how far one has come.

The shape of a workflow fixes its stages and the engines it runs. Progress counts the
stages that are done, and the timeline holds a moment for each. A workflow runs until it
is complete or aborted; both are final.
-/

namespace ScanFlow

/-- A stage of a workflow. -/
inductive Stage where
  | compile
  | analysis
  deriving DecidableEq, Repr

namespace Stage

def wire : Stage → String
  | compile => "compile"
  | analysis => "analysis"

def ofWire? : String → Option Stage
  | "compile" => some compile
  | "analysis" => some analysis
  | _ => none

def toJson (stage : Stage) : Json := .string stage.wire

def ofJson? : Json → Option Stage := Json.word? ofWire?

instance : Wire Stage := ⟨toJson, ofJson?⟩

end Stage

/-- The shapes of workflows. -/
inductive Shape where
  | compile
  | compileSa
  | compileSaMl
  | sa
  | ml
  | saMl
  deriving DecidableEq, Repr

namespace Shape

def all : List Shape := [compile, compileSa, compileSaMl, sa, ml, saMl]

def code : Shape → Int
  | compile => 1
  | compileSa => 2
  | compileSaMl => 3
  | sa => 4
  | ml => 5
  | saMl => 6

def ofCode? (code : Int) : Option Shape := all.find? fun shape => shape.code = code

/-- The stages of a shape, in their order. -/
def stages : Shape → List Stage
  | compile => [.compile]
  | compileSa | compileSaMl => [.compile, .analysis]
  | sa | ml | saMl => [.analysis]

def steps (shape : Shape) : Nat := shape.stages.length

def stageAt? (shape : Shape) (progress : Nat) : Option Stage := shape.stages[progress]?

def runsCompile (shape : Shape) : Bool := shape.stages.contains .compile

def runsSa : Shape → Bool
  | compileSa | compileSaMl | sa | saMl => true
  | compile | ml => false

def runsMl : Shape → Bool
  | compileSaMl | ml | saMl => true
  | compile | compileSa | sa => false

def requiresRules (shape : Shape) : Bool := shape.runsSa || shape.runsMl

/-- A shape without the compile stage starts from a compiled artifact. -/
def requiresCompiledInput (shape : Shape) : Bool := !shape.runsCompile

/-- The engines of the task of a workflow. -/
def taskKind? (shape : Shape) : Option Task.Kind :=
  match shape.runsSa, shape.runsMl with
  | true, true => some .saMl
  | true, false => some .sa
  | false, true => some .ml
  | false, false => none

def wire : Shape → String
  | compile => "compile"
  | compileSa => "compile_sa"
  | compileSaMl => "compile_sa_ml"
  | sa => "sa"
  | ml => "ml"
  | saMl => "sa_ml"

def ofWire? : String → Option Shape
  | "compile" => some compile
  | "compile_sa" => some compileSa
  | "compile_sa_ml" => some compileSaMl
  | "sa" => some sa
  | "ml" => some ml
  | "sa_ml" => some saMl
  | _ => none

/-- What is said about a word that is no shape. -/
def refusal (word : String) : String := s!"Invalid workflow type: {word}"

def toJson (shape : Shape) : Json := .string shape.wire

def ofJson? : Json → Option Shape := Json.word? ofWire?

instance : Wire Shape := ⟨toJson, ofJson?⟩

end Shape

/-- Where a workflow stands. -/
inductive Workflow.Status where
  | running
  | complete
  | aborted
  deriving DecidableEq, Repr

namespace Workflow.Status

def isTerminal : Status → Bool
  | running => false
  | complete | aborted => true

def canBecome : Status → Status → Bool
  | running, complete => true
  | running, aborted => true
  | _, _ => false

def wire : Status → String
  | running => "running"
  | complete => "complete"
  | aborted => "aborted"

def ofWire? : String → Option Status
  | "running" => some running
  | "complete" => some complete
  | "aborted" => some aborted
  | _ => none

/-- What is said about a word that is no status. -/
def refusal (word : String) : String := s!"Invalid workflow status: {word}"

def become (status next : Status) : Except ServiceError Status :=
  if status.canBecome next then .ok next
  else .error (.invalidTransition "workflow" status.wire next.wire)

def toJson (status : Status) : Json := .string status.wire

def ofJson? : Json → Option Status := Json.word? ofWire?

instance : Wire Status := ⟨toJson, ofJson?⟩

end Workflow.Status

/-- What an engine may use for one request. -/
structure EngineLimits where
  timeoutMinutes : Nat
  maxMemoryGb : Nat
  deriving DecidableEq, Repr

namespace EngineLimits

def leastTimeout : Nat := 1

def greatestTimeout : Nat := 30

def leastMemory : Nat := 1

def greatestMemory : Nat := 16

def standard : EngineLimits := ⟨20, 6⟩

/-- The fields outside their ranges, in the order of their names. -/
def faults (limits : EngineLimits) : List FieldFault :=
  rangeFault "max_memory_gb" limits.maxMemoryGb leastMemory greatestMemory ++
    rangeFault "timeout_minutes" limits.timeoutMinutes leastTimeout greatestTimeout

def toJson (limits : EngineLimits) : Json :=
  .object
    [("timeout_minutes", .ofNat limits.timeoutMinutes),
      ("max_memory_gb", .ofNat limits.maxMemoryGb)]

def ofJson? : Json → Option EngineLimits := Json.record? do
  let timeoutMinutes ← Json.required "timeout_minutes" (Json.nat? Digits.maxWord32)
  let maxMemoryGb ← Json.required "max_memory_gb" (Json.nat? Digits.maxWord32)
  return { timeoutMinutes, maxMemoryGb }

instance : Wire EngineLimits := ⟨toJson, ofJson?⟩

end EngineLimits

/-- A workflow. -/
structure Workflow where
  id : Uuid
  shape : Shape
  status : Workflow.Status
  steps : Nat
  progress : Nat
  taskId : Uuid
  codeId : Uuid
  templateId : Option Uuid
  trigger : String
  limits : EngineLimits
  timeline : List Timestamp
  createdAt : Timestamp
  updatedAt : Timestamp
  deriving DecidableEq, Repr

namespace Workflow

/-- A new workflow, running, with no stage done. -/
def fresh (id : Uuid) (shape : Shape) (taskId codeId : Uuid) (templateId : Option Uuid)
    (trigger : String) (limits : EngineLimits) (now : Timestamp) : Workflow :=
  { id, shape
    status := .running
    steps := shape.steps
    progress := 0
    taskId, codeId, templateId, trigger, limits
    timeline := []
    createdAt := now
    updatedAt := now }

def isRunning (workflow : Workflow) : Bool := workflow.status = .running

def isFullyProgressed (workflow : Workflow) : Bool := workflow.steps ≤ workflow.progress

/-- The stage to dispatch next; none when every stage has run. -/
def nextStage? (workflow : Workflow) : Option Stage :=
  if workflow.isFullyProgressed then none else workflow.shape.stageAt? workflow.progress

def toJson (workflow : Workflow) : Json :=
  .object
    [("id", .ofUuid workflow.id), ("workflow_type", workflow.shape.toJson),
      ("status", workflow.status.toJson), ("steps", .ofNat workflow.steps),
      ("progress", .ofNat workflow.progress), ("task_id", .ofUuid workflow.taskId),
      ("code_id", .ofUuid workflow.codeId),
      ("rule_template_id", .ofOption .ofUuid workflow.templateId),
      ("trigger", .string workflow.trigger), ("limits", workflow.limits.toJson),
      ("timeline", .ofList .ofTimestamp workflow.timeline),
      ("created_at", .ofTimestamp workflow.createdAt),
      ("updated_at", .ofTimestamp workflow.updatedAt)]

def ofJson? : Json → Option Workflow := Json.record? do
  let id ← Json.required "id" Json.uuid?
  let shape ← Json.required "workflow_type" Shape.ofJson?
  let status ← Json.required "status" Status.ofJson?
  let steps ← Json.required "steps" (Json.nat? Digits.maxWord32)
  let progress ← Json.required "progress" (Json.nat? Digits.maxWord32)
  let taskId ← Json.required "task_id" Json.uuid?
  let codeId ← Json.required "code_id" Json.uuid?
  let templateId ← Json.optional "rule_template_id" Json.uuid?
  let trigger ← Json.required "trigger" Json.string?
  let limits ← Json.required "limits" EngineLimits.ofJson?
  let timeline ← Json.required "timeline" (Json.list? Json.timestamp?)
  let createdAt ← Json.required "created_at" Json.timestamp?
  let updatedAt ← Json.required "updated_at" Json.timestamp?
  return { id, shape, status, steps, progress, taskId, codeId, templateId, trigger, limits,
           timeline, createdAt, updatedAt }

instance : Wire Workflow := ⟨toJson, ofJson?⟩

end Workflow

/-- The stage that a shape, given by its code, has at some progress. -/
def Stage.ofShapeCode? (code : Int) (progress : Nat) : Option Stage :=
  (Shape.ofCode? code).bind fun shape => shape.stageAt? progress

end ScanFlow
