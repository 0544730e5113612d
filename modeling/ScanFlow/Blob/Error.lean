import ScanFlow.ServiceError

/-!
Errors of the blob storage, and how services pass them on.
-/

namespace ScanFlow

/-- Why the blob storage does not answer. -/
inductive BlobError where
  | notFound (key : String)
  | invalidKey (text : String)
  | backend (text : String)
  | io (text : String)
  | config (text : String)
  deriving DecidableEq, Repr

def BlobError.message : BlobError → String
  | notFound key => s!"Object not found: {key}"
  | invalidKey text => s!"Invalid object key: {text}"
  | backend text => s!"Storage backend error: {text}"
  | io text => s!"IO error: {text}"
  | config text => s!"Configuration error: {text}"

/-- A missing object is told to clients, every other fault is one of the storage. -/
def ServiceError.ofBlobError : BlobError → ServiceError
  | .notFound key => .notFound s!"object {key}"
  | other => .storage other.message

end ScanFlow
