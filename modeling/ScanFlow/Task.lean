import ScanFlow.EngineRun

/-!
Tasks: what the engines are asked about one artifact, and what they answered.

A task belongs to one workflow. It names the artifact under analysis, holds the two
engine runs, the snapshot of the rules once it has been taken, and the merged summary.
-/

namespace ScanFlow

/-- The engines that a task runs. -/
inductive Task.Kind where
  | sa
  | ml
  | saMl
  deriving DecidableEq, Repr

namespace Task.Kind

def code : Kind → Nat
  | sa => 1
  | ml => 2
  | saMl => 3

def includesSa : Kind → Bool
  | sa | saMl => true
  | ml => false

def includesMl : Kind → Bool
  | ml | saMl => true
  | sa => false

def wire : Kind → String
  | sa => "sa"
  | ml => "ml"
  | saMl => "sa_ml"

def ofWire? : String → Option Kind
  | "sa" => some sa
  | "ml" => some ml
  | "sa_ml" => some saMl
  | _ => none

/-- What is said about a word that is no kind. -/
def refusal (word : String) : String := s!"Invalid task kind: {word}"

def toJson (kind : Kind) : Json := .string kind.wire

def ofJson? : Json → Option Kind := Json.word? ofWire?

instance : Wire Kind := ⟨toJson, ofJson?⟩

end Task.Kind

/-- The merged output of a task. A merge that found nothing differs from one that has
not run. -/
inductive Summary where
  | notRun
  | empty (mergedAt : Timestamp)
  | populated (mergedAt : Timestamp) (results : List MergeRecord)
  deriving DecidableEq, Repr

namespace Summary

def ofResults (results : List MergeRecord) (mergedAt : Timestamp) : Summary :=
  if results.isEmpty then .empty mergedAt else .populated mergedAt results

def results : Summary → List MergeRecord
  | populated _ results => results
  | _ => []

def hasRun : Summary → Bool
  | notRun => false
  | _ => true

def state : Summary → String
  | notRun => "not_run"
  | empty _ => "empty"
  | populated .. => "populated"

def toJson (summary : Summary) : Json :=
  .object (("state", .string summary.state) ::
    match summary with
    | notRun => []
    | empty mergedAt => [("merged_at", .ofTimestamp mergedAt)]
    | populated mergedAt results =>
      [("merged_at", .ofTimestamp mergedAt), ("results", .ofList MergeRecord.toJson results)])

/-- The fields of a summary without results. -/
def emptyFields : Json.FieldReader Summary := do
  let mergedAt ← Json.required "merged_at" Json.timestamp?
  return .empty mergedAt

/-- The fields of a summary with results. -/
def populatedFields : Json.FieldReader Summary := do
  let mergedAt ← Json.required "merged_at" Json.timestamp?
  let results ← Json.required "results" (Json.list? MergeRecord.ofJson?)
  return .populated mergedAt results

/-- Reads what follows the state, from the members of an object or the elements of an
array. -/
def ofState? (state : String) (rest : Json.Fields) : Option Summary :=
  match state with
  | "not_run" => Json.readFields (pure .notRun) rest
  | "empty" => Json.readFields emptyFields rest
  | "populated" => Json.readFields populatedFields rest
  | _ => none

def ofJson? : Json → Option Summary
  | .object members => do
    let state ← (Json.lookup? members "state").bind Json.string?
    ofState? state (.named members)
  | .array (state :: rest) => state.string?.bind fun state => ofState? state (.positional rest)
  | _ => none

instance : Wire Summary := ⟨toJson, ofJson?⟩

end Summary

/-- A task. -/
structure Task where
  id : Uuid
  trigger : String
  codeId : Uuid
  targetName : String
  targetKey : Option String
  kind : Option Task.Kind
  sa : SaRun
  ml : MlRun
  snapshot : Option TemplateSnapshot
  summary : Summary
  mergeClaimed : Bool
  /-- The number of merged weaknesses, and that of audited findings, are words of 32 bits: below
  `2 ^ 32`, as no memory holds that many records. -/
  weaknessCount : Nat
  auditCount : Nat
  createdAt : Timestamp
  updatedAt : Timestamp
  deriving DecidableEq

namespace Task

/-- A new task, with nothing run yet. -/
def fresh (id codeId : Uuid) (trigger targetName : String) (targetKey : Option String)
    (kind : Option Kind) (now : Timestamp) : Task :=
  { id, trigger, codeId, targetName, targetKey, kind
    sa := .initial
    ml := .initial
    snapshot := none
    summary := .notRun
    mergeClaimed := false
    weaknessCount := 0
    auditCount := 0
    createdAt := now
    updatedAt := now }

def runsSa (task : Task) : Bool := task.kind.any Kind.includesSa

def runsMl (task : Task) : Bool := task.kind.any Kind.includesMl

def isCombined (task : Task) : Bool := task.kind = some .saMl

def bothSucceeded (task : Task) : Bool :=
  task.sa.status = .success && task.ml.status = .success

def bothTerminal (task : Task) : Bool :=
  task.sa.status.isTerminal && task.ml.status.isTerminal

def toJson (task : Task) : Json :=
  .object
    [("id", .ofUuid task.id), ("trigger", .string task.trigger),
      ("code_id", .ofUuid task.codeId), ("target_object_name", .string task.targetName),
      ("target_object_key", .ofOption .string task.targetKey),
      ("kind", .ofOption Kind.toJson task.kind), ("sa", task.sa.toJson),
      ("ml", task.ml.toJson),
      ("rule_snapshot", .ofOption TemplateSnapshot.toJson task.snapshot),
      ("summary", task.summary.toJson), ("merge_claimed", .bool task.mergeClaimed),
      ("weakness_count", .ofNat task.weaknessCount), ("audit_count", .ofNat task.auditCount),
      ("created_at", .ofTimestamp task.createdAt), ("updated_at", .ofTimestamp task.updatedAt)]

def ofJson? : Json → Option Task := Json.record? do
  let id ← Json.required "id" Json.uuid?
  let trigger ← Json.required "trigger" Json.string?
  let codeId ← Json.required "code_id" Json.uuid?
  let targetName ← Json.required "target_object_name" Json.string?
  let targetKey ← Json.optional "target_object_key" Json.string?
  let kind ← Json.optional "kind" Kind.ofJson?
  let sa ← Json.required "sa" SaRun.ofJson?
  let ml ← Json.required "ml" MlRun.ofJson?
  let snapshot ← Json.optional "rule_snapshot" TemplateSnapshot.ofJson?
  let summary ← Json.required "summary" Summary.ofJson?
  let mergeClaimed ← Json.required "merge_claimed" Json.bool?
  let weaknessCount ← Json.required "weakness_count" (Json.nat? Digits.maxWord32)
  let auditCount ← Json.required "audit_count" (Json.nat? Digits.maxWord32)
  let createdAt ← Json.required "created_at" Json.timestamp?
  let updatedAt ← Json.required "updated_at" Json.timestamp?
  return { id, trigger, codeId, targetName, targetKey, kind, sa, ml, snapshot, summary,
           mergeClaimed, weaknessCount, auditCount, createdAt, updatedAt }

instance : Wire Task := ⟨toJson, ofJson?⟩

end Task

end ScanFlow
