import ScanFlow.Merge.Record

/-!
Errors of the services: their kinds, texts and presentation.

Each kind has a fixed class: an HTTP status, a code for programs, whether trying again
may help, and the level at which it is logged. The text for a client leaves out what a
client must not see, the detailed text adds the chain of causes.
-/

namespace ScanFlow

/-- A field of a request that breaks its rule. -/
structure FieldFault where
  field : String
  code : String
  deriving DecidableEq, Repr

/-- An error of a service. -/
inductive ServiceError where
  | database (text : String)
  | storage (text : String)
  | broker (text : String)
  | invalidInput (text : String)
  | invalidMessage (text : String)
  | notFound (text : String)
  | invalidTransition (entity before after : String)
  | engineNotReady (text : String)
  | internal (text : String)
  | internalWithCauses (text : String) (causes : List String)
  deriving DecidableEq, Repr

/-- The level at which an error is logged. -/
inductive LogLevel where
  | debug
  | warn
  | error
  deriving DecidableEq, Repr

def LogLevel.name : LogLevel → String
  | debug => "Debug"
  | warn => "Warn"
  | error => "Error"

/-- How a kind of error is presented. -/
structure ErrorClass where
  status : Nat
  code : String
  recoverable : Bool
  logLevel : LogLevel
  deriving DecidableEq, Repr

namespace ServiceError

def errorClass : ServiceError → ErrorClass
  | database _ => ⟨500, "DATABASE_ERROR", true, .error⟩
  | storage _ => ⟨500, "STORAGE_ERROR", true, .error⟩
  | broker _ => ⟨503, "BROKER_ERROR", true, .error⟩
  | invalidInput _ => ⟨400, "INVALID_INPUT", false, .debug⟩
  | invalidMessage _ => ⟨400, "INVALID_MESSAGE", false, .warn⟩
  | notFound _ => ⟨404, "NOT_FOUND", false, .debug⟩
  | invalidTransition .. => ⟨409, "INVALID_TRANSITION", false, .warn⟩
  | engineNotReady _ => ⟨409, "ENGINE_NOT_READY", true, .debug⟩
  | internal _ => ⟨500, "INTERNAL_ERROR", true, .error⟩
  | internalWithCauses .. => ⟨500, "INTERNAL_ERROR", true, .error⟩

def status (e : ServiceError) : Nat := e.errorClass.status

def code (e : ServiceError) : String := e.errorClass.code

def isRecoverable (e : ServiceError) : Bool := e.errorClass.recoverable

/-- The text of an error. -/
def message : ServiceError → String
  | database text => s!"Database error: {text}"
  | storage text => s!"Storage error: {text}"
  | broker text => s!"Broker error: {text}"
  | invalidInput text => s!"Invalid input: {text}"
  | invalidMessage text => s!"Invalid message: {text}"
  | notFound text => s!"Not found: {text}"
  | invalidTransition entity before after =>
    s!"Invalid transition of {entity} from {before} to {after}"
  | engineNotReady text => s!"Engine results not ready: {text}"
  | internal text => s!"Internal error: {text}"
  | internalWithCauses _ _ => "Internal error with source"

/-- The text that a client is shown. -/
def clientMessage : ServiceError → String
  | database _ => "Failed to access database"
  | storage _ => "Failed to access storage"
  | broker _ => "Failed to reach message broker"
  | invalidInput text => text
  | invalidMessage text => text
  | notFound text => text
  | e@(invalidTransition ..) => e.message
  | engineNotReady text => text
  | internal _ => "Internal server error"
  | internalWithCauses _ _ => "Internal server error"

/-- The causes of an error, outermost first. -/
def causes : ServiceError → List String
  | internalWithCauses _ causes => causes
  | _ => []

/-- The number of causes that a detailed text names. -/
def shownCauses : Nat := 5

/-- The text of an error followed by its causes, a line for each. -/
def detailedMessage (e : ServiceError) : String :=
  let shown := (e.causes.take shownCauses).map fun cause => "\n  Caused by: " ++ cause
  let rest := if shownCauses < e.causes.length then "\n  ... (truncated)" else ""
  e.message ++ String.join shown ++ rest

/-! ### Errors by cause -/

/-- An error that reached a service as a chain of causes. -/
def ofCauses (causes : List String) : ServiceError := internalWithCauses (causes.headD "") causes

def ofIoFault (text : String) : ServiceError := internal s!"IO error: {text}"

/-- A text that is no identifier. -/
def malformedId : ServiceError := invalidInput "UUID parsing error"

/-- A message whose JSON does not have the shape that its queue asks for. -/
def malformedMessage : ServiceError := invalidMessage "JSON parsing error"

/-- Fields that break their rules, in the order given. -/
def ofFieldFaults (faults : List FieldFault) : ServiceError :=
  invalidInput ("Validation error: " ++
    String.intercalate "; " (faults.map fun fault => fault.field ++ ": " ++ fault.code))

end ServiceError

/-- Refuses a request with faulty fields. -/
def refuseFaults (faults : List FieldFault) : Except ServiceError Unit :=
  if faults.isEmpty then .ok () else .error (.ofFieldFaults faults)

/-- A length that must lie between two ends, counted in characters. -/
def lengthFault (field text : String) (least greatest : Nat) : List FieldFault :=
  if least ≤ text.length && text.length ≤ greatest then [] else [⟨field, "length"⟩]

/-- A number that must lie between two ends. -/
def rangeFault (field : String) (n least greatest : Nat) : List FieldFault :=
  if least ≤ n && n ≤ greatest then [] else [⟨field, "range"⟩]

end ScanFlow
