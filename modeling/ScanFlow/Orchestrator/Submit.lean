import ScanFlow.Orchestrator.Dispatch

/-!
Registering a source archive and starting a workflow for it.

Everything that a submission names is checked before anything is stored. The workflow and
its task are stored together, and the first stage is dispatched at once; if that fails,
the workflow is ended and the caller is told why.
-/

namespace ScanFlow

/-- A source archive that has been placed in the blob storage. -/
structure CodeUpload where
  name : String
  size : Nat
  md5 : String
  objectKey : String
  deriving DecidableEq, Repr

namespace CodeUpload

def ofJson? : Json → Option CodeUpload := Json.record? do
  let name ← Json.required "name" Json.string?
  let size ← Json.required "size" (Json.nat? Digits.maxWord64)
  let md5 ← Json.required "md5" Json.string?
  let objectKey ← Json.required "objectKey" Json.string?
  return { name, size, md5, objectKey }

/-- The fields that break their rules, in the order of their names. -/
def faults (upload : CodeUpload) : List FieldFault :=
  lengthFault "md5" upload.md5 1 64 ++ lengthFault "name" upload.name 1 255 ++
    lengthFault "object_key" upload.objectKey 1 1024

end CodeUpload

/-- A submission of a code for a scan. Without a shape, a compiled code is analysed, and
another one is compiled first; without limits, those of the settings count. -/
structure Submission where
  codeId : Uuid
  shape : Option Shape
  trigger : String
  templateId : Option Uuid
  limits : Option EngineLimits
  deriving DecidableEq, Repr

namespace Orchestrator

/-- Registers an uploaded source archive. -/
def registerCode (upload : CodeUpload) : Program Code := do
  Program.ofExcept (refuseFaults upload.faults)
  if ← Program.blobExists upload.objectKey then
    let fileId ← Program.newId
    let fileMoment ← Program.clock
    let source : StoredFile :=
      { id := fileId
        name := upload.name
        size := upload.size
        md5 := upload.md5
        objectKey := upload.objectKey
        folder := StoredFile.sourceFolder
        createdAt := fileMoment }
    let codeId ← Program.newId
    let codeMoment ← Program.clock
    let code : Code :=
      { id := codeId
        sourceName := upload.name
        sourceFileId := source.id
        compiledFileId := none
        createdAt := codeMoment }
    Program.store (.createCode code source)
    return code
  else Program.fail (.notFound s!"object {upload.objectKey}")

/-- The template that a submission asks for, or else the default one. -/
def resolveTemplate (templateId : Option Uuid) : Program RuleTemplate := do
  match templateId with
  | some id =>
    let template ← Program.require (.findTemplate id) (.notFound s!"rule template {id}")
    if template.enabled then return template
    else Program.fail (.invalidInput s!"rule template {id} is disabled")
  | none =>
    Program.require .defaultTemplate
      (.invalidInput "no rule template given and no default template is configured")

/-- The name and the key of the artifact that a workflow starts from. -/
def resolveTarget (code : Code) (shape : Shape) : Program (String × Option String) := do
  if shape.requiresCompiledInput then
    match code.compiledFileId with
    | none =>
      Program.fail (.invalidInput
        s!"code {code.id} has no compiled artifact for a {shape.wire} workflow")
    | some fileId =>
      let compiled ← Program.require (.findFile fileId) (.notFound s!"compiled file {fileId}")
      return (compiled.name, some compiled.objectKey)
  else return (code.sourceName, none)

/-- The shape of a submission that names none. -/
def shapeFor (code : Code) : Shape := if code.isCompiled then .saMl else .compileSaMl

/-- Dispatches the first stage of a new workflow. If that fails, the workflow is ended. -/
def dispatchFirst (o : Orchestrator) (workflow : Workflow) : Program Unit := do
  match workflow.nextStage? with
  | none => return
  | some stage =>
    match ← (o.dispatch stage workflow).attempt with
    | .ok _ => return
    | .error e => do
      Program.finish workflow.id .aborted
      Program.fail e

/-- Starts a workflow and answers with it as it is stored then. -/
def start (o : Orchestrator) (submission : Submission) : Program Workflow := do
  let code ← Program.require (.findCode submission.codeId)
    (.notFound s!"code {submission.codeId}")
  let shape := submission.shape.getD (shapeFor code)
  let limits := submission.limits.getD o.defaultLimits
  Program.ofExcept (refuseFaults limits.faults)
  let (targetName, targetKey) ← resolveTarget code shape
  let templateId ←
    if shape.requiresRules then do
      let template ← resolveTemplate submission.templateId
      pure (some template.id)
    else pure none
  let taskId ← Program.newId
  let taskMoment ← Program.clock
  let task := Task.fresh taskId code.id submission.trigger targetName targetKey shape.taskKind?
    taskMoment
  let workflowId ← Program.newId
  let now ← Program.clock
  let workflow := Workflow.fresh workflowId shape task.id code.id templateId submission.trigger
    limits now
  Program.storeOr (.createWorkflow workflow task)
  o.dispatchFirst workflow
  Program.workflow workflow.id

end Orchestrator

end ScanFlow
