import ScanFlow.Http.Message
import ScanFlow.Settings

/-!
Errors as responses.

A response tells a client the text meant for it, the code, and whether trying again may
help. The detailed text is added unless the fault is the server's, or the variable
`ENVIRONMENT` names the production environment.
-/

namespace ScanFlow.Http

/-- What a client is told about an error. -/
structure ErrorReport where
  status : Nat
  error : String
  details : Option String
  code : String
  recoverable : Bool
  deriving DecidableEq, Repr

/-- Whether the variables say that details must not be shown. -/
def hidesDetails (vars : Variables) : Bool := (vars "ENVIRONMENT").any isProductionName

/-- Whether a status says that the fault is the server's. -/
def isServerFault (status : Nat) : Bool := 500 ≤ status && status < 600

namespace ErrorReport

def ofError (vars : Variables) (e : ServiceError) : ErrorReport :=
  { status := e.status
    error := e.clientMessage
    details :=
      if hidesDetails vars || isServerFault e.status then none else some e.detailedMessage
    code := e.code
    recoverable := e.isRecoverable }

/-- The details are left out where there are none. -/
def toJson (report : ErrorReport) : Json :=
  .object
    ([("error", .string report.error)] ++
      (report.details.map fun details => ("details", .string details)).toList ++
      [("code", .string report.code), ("recoverable", .bool report.recoverable)])

def response (report : ErrorReport) : Response :=
  { status := report.status, content := .json report.toJson }

end ErrorReport

end ScanFlow.Http
