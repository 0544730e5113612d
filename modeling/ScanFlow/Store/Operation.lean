import ScanFlow.Store.Basic

/-!
The operations of the store as data.

An operation fixes the type of its answer. `Store.Operation.perform` carries one out at
once, so that operations of several programs can be interleaved one by one.
-/

namespace ScanFlow

/-- An operation of the store, by the type of its answer. -/
inductive Store.Operation : Type → Type where
  | createWorkflow (workflow : Workflow) (task : Task) : Operation (Except StoreError Unit)
  | findWorkflow (id : Uuid) : Operation (Option Workflow)
  | advance (id : Uuid) (moment : Timestamp) : Operation (Option Workflow)
  | finish (id : Uuid) (status : Workflow.Status) : Operation Bool
  | findTask (id : Uuid) : Operation (Option Task)
  | setArtifact (id : Uuid) (name key : String) (saProgress : Option Nat) :
      Operation (Except StoreError Bool)
  | bindAnalysis (id : Uuid) (binding : AnalysisBinding) : Operation Bool
  | moveSa (id : Uuid) (expected : RunStatus) (next : SaRun) : Operation Bool
  | moveMl (id : Uuid) (expected : RunStatus) (next : MlRun) : Operation Bool
  | claimMerge (id : Uuid) (summary : Summary) (weaknessCount : Nat) : Operation Bool
  | storeSummary (id : Uuid) (summary : Summary) (weaknessCount : Nat) :
      Operation (Except StoreError Unit)
  | setAuditCount (id : Uuid) (count : Nat) : Operation (Except StoreError Unit)
  | insertGroups (taskId : Uuid) (reports : List GroupReport) :
      Operation (Except StoreError Unit)
  | deleteGroups (taskId : Uuid) (groupIds : List Uuid) : Operation Unit
  | groupReports (taskId : Uuid) : Operation (List GroupReport)
  | findFinding (id : Uuid) : Operation (Option Finding)
  | setAudit (id : Uuid) (audit : Audit) : Operation Bool
  | countAudited (taskId : Uuid) : Operation Nat
  | findTemplate (id : Uuid) : Operation (Option RuleTemplate)
  | defaultTemplate : Operation (Option RuleTemplate)
  | activeRules (templateId : Uuid) : Operation (List Rule)
  | findCode (id : Uuid) : Operation (Option Code)
  | findFile (id : Uuid) : Operation (Option StoredFile)
  | createCode (code : Code) (source : StoredFile) : Operation Unit
  | registerCompiled (codeId : Uuid) (file : StoredFile) : Operation (Except StoreError Bool)

namespace Store

/-- The answer of a change that must be made, without the word whether it was. -/
def accepted (outcome : Except StoreError Bool × Store) : Except StoreError Unit × Store :=
  (outcome.1.map fun _ => (), outcome.2)

/-- Carries out one operation at a moment. -/
def Operation.perform {α : Type} (now : Timestamp) (operation : Operation α)
    (store : Store) : α × Store :=
  match operation with
  | .createWorkflow workflow task => store.createWorkflow workflow task
  | .findWorkflow id => (store.workflows.get? id, store)
  | .advance id moment => store.changeWorkflow id fun workflow => workflow.advanced? moment
  | .finish id status =>
    let (finished, store) := store.changeWorkflow id fun workflow => workflow.finished? status now
    (finished.isSome, store)
  | .findTask id => (store.tasks.get? id, store)
  | .setArtifact id name key saProgress =>
    store.changeKnownTask id fun task => task.withArtifact? name key saProgress now
  | .bindAnalysis id binding => store.changeTask id fun task => task.withAnalysis? binding now
  | .moveSa id expected next => store.changeTask id fun task => task.withSa? expected next now
  | .moveMl id expected next => store.changeTask id fun task => task.withMl? expected next now
  | .claimMerge id summary count =>
    store.changeTask id fun task => task.withClaim? summary count now
  | .storeSummary id summary count =>
    accepted (store.changeKnownTask id fun task => some (task.withSummary summary count now))
  | .setAuditCount id count =>
    accepted (store.changeKnownTask id fun task => some { task with auditCount := count })
  | .insertGroups taskId reports => store.insertGroups taskId reports
  | .deleteGroups taskId groupIds => ((), store.deleteGroups taskId groupIds)
  | .groupReports taskId => (store.groupReports taskId, store)
  | .findFinding id => (store.findings.get? id, store)
  | .setAudit id audit => store.setAudit id audit
  | .countAudited taskId => (store.countAudited taskId, store)
  | .findTemplate id => (store.template? id, store)
  | .defaultTemplate => (store.defaultTemplate?, store)
  | .activeRules templateId => (store.activeRules templateId, store)
  | .findCode id => (store.codes.get? id, store)
  | .findFile id => (store.files.get? id, store)
  | .createCode code source => ((), (store.putFile source).putCode code)
  | .registerCompiled codeId file => store.registerCompiled codeId file

end Store

end ScanFlow
