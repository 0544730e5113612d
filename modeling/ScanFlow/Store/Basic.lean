import ScanFlow.Artifact
import ScanFlow.Store.Change

/-!
The store: workflows, tasks, findings, rules and files.

Every operation is one function from a store to an answer and a store, so that a run of
services is a sequence of such steps. An operation that refuses leaves the store as it
was. The store is the one in memory: no operation fails for a reason of its own, as one on a
database may.
-/

namespace ScanFlow

/-- Everything that is kept. Groups stand in the order in which they were inserted, and
templates in the order in which they were last put. -/
structure Store where
  workflows : Table Workflow
  tasks : Table Task
  groups : List FindingGroup
  findings : Table Finding
  rules : Table Rule
  templates : List RuleTemplate
  codes : Table Code
  files : Table StoredFile
  deriving DecidableEq

/-- Why the store refuses an operation. -/
inductive StoreError where
  | alreadyExists (workflowId taskId : Uuid)
  | noTask (id : Uuid)
  | foreignGroup (groupId taskId : Uuid)
  | noCode (id : Uuid)
  deriving DecidableEq, Repr

def StoreError.message : StoreError → String
  | alreadyExists workflowId taskId => s!"Workflow {workflowId} or task {taskId} already exists"
  | noTask id => s!"Task {id} not found"
  | foreignGroup groupId taskId => s!"SA result {groupId} does not belong to task {taskId}"
  | noCode id => s!"Code {id} not found"

namespace Store

def empty : Store :=
  { workflows := ∅, tasks := ∅, groups := [], findings := ∅, rules := ∅, templates := [],
    codes := ∅, files := ∅ }

instance : Inhabited Store := ⟨empty⟩

/-! ### The catalog and what is uploaded -/

/-- Adds a rule, or replaces the one with its id. -/
def putRule (store : Store) (rule : Rule) : Store :=
  { store with rules := store.rules.insert rule.id rule }

/-- Adds a template at the end, in place of the one with its id. -/
def putTemplate (store : Store) (template : RuleTemplate) : Store :=
  { store with
    templates := store.templates.filter (fun other => other.id ≠ template.id) ++ [template] }

def putFile (store : Store) (file : StoredFile) : Store :=
  { store with files := store.files.insert file.id file }

def putCode (store : Store) (code : Code) : Store :=
  { store with codes := store.codes.insert code.id code }

def template? (store : Store) (id : Uuid) : Option RuleTemplate :=
  store.templates.find? fun template => template.id = id

/-- The first template that is enabled and marked as the default. -/
def defaultTemplate? (store : Store) : Option RuleTemplate :=
  store.templates.find? fun template => template.isDefault && template.enabled

/-- The active rules of a template, in its order. -/
def activeRules (store : Store) (templateId : Uuid) : List Rule :=
  match store.template? templateId with
  | none => []
  | some template => (template.ruleIds.filterMap store.rules.get?).filter Rule.isActive

/-- The number of files in a folder. -/
def fileCount (store : Store) (folder : String) : Nat :=
  (store.files.values.filter fun file => file.folder = folder).length

/-- Registers a compiled artifact for a code, unless its present artifact has the same
key. -/
def registerCompiled (store : Store) (codeId : Uuid) (file : StoredFile) :
    Except StoreError Bool × Store :=
  match store.codes.get? codeId with
  | none => (.error (.noCode codeId), store)
  | some code =>
    if (code.compiledFileId.bind store.files.get?).any fun present =>
        present.objectKey = file.objectKey then (.ok false, store)
    else (.ok true, (store.putFile file).putCode { code with compiledFileId := some file.id })

/-! ### Workflows and tasks -/

/-- Adds a workflow and its task together, or neither. -/
def createWorkflow (store : Store) (workflow : Workflow) (task : Task) :
    Except StoreError Unit × Store :=
  if store.workflows.contains workflow.id || store.tasks.contains task.id then
    (.error (.alreadyExists workflow.id task.id), store)
  else
    (.ok (),
      { store with
        tasks := store.tasks.insert task.id task
        workflows := store.workflows.insert workflow.id workflow })

/-- Changes a workflow where the change is accepted, and answers with what it became. -/
def changeWorkflow (store : Store) (id : Uuid) (change : Workflow → Option Workflow) :
    Option Workflow × Store :=
  match (store.workflows.get? id).bind change with
  | some workflow =>
    (some workflow, { store with workflows := store.workflows.insert id workflow })
  | none => (none, store)

/-- Changes a task where the change is accepted, and tells whether it was. -/
def changeTask (store : Store) (id : Uuid) (change : Task → Option Task) : Bool × Store :=
  match (store.tasks.get? id).bind change with
  | some task => (true, { store with tasks := store.tasks.insert id task })
  | none => (false, store)

/-- Changes a task that must be there. -/
def changeKnownTask (store : Store) (id : Uuid) (change : Task → Option Task) :
    Except StoreError Bool × Store :=
  if store.tasks.contains id then
    match store.changeTask id change with
    | (changed, store) => (.ok changed, store)
  else (.error (.noTask id), store)

/-! ### Findings -/

/-- Stores the groups of one task with their findings, all or none. -/
def insertGroups (store : Store) (taskId : Uuid) (reports : List GroupReport) :
    Except StoreError Unit × Store :=
  match reports.find? fun report => report.group.taskId ≠ taskId with
  | some foreign => (.error (.foreignGroup foreign.group.id taskId), store)
  | none =>
    let findings := reports.flatMap GroupReport.findings
    (.ok (),
      { store with
        findings := findings.foldl (fun table f => table.insert f.id f) store.findings
        groups := store.groups ++ reports.map GroupReport.group })

/-- Whether a group belongs to a task and is one of those named. -/
def isNamed (taskId : Uuid) (groupIds : List Uuid) (group : FindingGroup) : Bool :=
  group.taskId = taskId && groupIds.contains group.id

/-- Takes groups of one task away, with the findings they name. -/
def deleteGroups (store : Store) (taskId : Uuid) (groupIds : List Uuid) : Store :=
  let named := store.groups.filter (isNamed taskId groupIds)
  { store with
    findings := store.findings.eraseAll (named.flatMap FindingGroup.findingIds)
    groups := store.groups.filter fun group => !isNamed taskId groupIds group }

/-- The groups of a task with their findings. -/
def groupReports (store : Store) (taskId : Uuid) : List GroupReport :=
  (store.groups.filter fun group => group.taskId = taskId).map fun group =>
    ⟨group, group.findingIds.filterMap store.findings.get?⟩

/-- The number of groups of a task. -/
def groupCount (store : Store) (taskId : Uuid) : Nat :=
  (store.groups.filter fun group => group.taskId = taskId).length

/-- Records a decision on a finding, if there is such a finding. -/
def setAudit (store : Store) (id : Uuid) (audit : Audit) : Bool × Store :=
  match store.findings.get? id with
  | some finding =>
    (true,
      { store with findings := store.findings.insert id { finding with audit := some audit } })
  | none => (false, store)

/-- The number of findings of a task that carry a decision, a word of 32 bits: below `2 ^ 32`, as
no memory holds that many findings. -/
def countAudited (store : Store) (taskId : Uuid) : Nat :=
  (store.findings.values.filter fun finding =>
    finding.taskId = taskId && finding.audit.isSome).length

end Store

end ScanFlow
