import ScanFlow.Json.Draft
import ScanFlow.ServiceError

/-!
Faults in the body of a request.

A body is refused for the first fault in the order of reading: either its text is not JSON
from there on, or it is JSON that does not have the shape asked for. A value of the wrong
kind is noticed where it begins, so that what stands inside an array or an object that
should not be there is not looked at. Unknown members are only passed over.
-/

namespace ScanFlow.Http

/-- What is wrong with a body. -/
inductive BodyFault where
  | contentType
  | syntactic
  | shape
  deriving DecidableEq, Repr

namespace BodyFault

def message : BodyFault → String
  | contentType => "Expected request with \x60Content-Type: application/json\x60"
  | syntactic => "Failed to parse the request body as JSON"
  | shape => "Failed to deserialize the JSON body into the target type"

def toServiceError (fault : BodyFault) : ServiceError :=
  .invalidInput s!"Invalid request body: {fault.message}"

end BodyFault

/-- A field of a body: its name, whether it may be missing, and what is wrong with a value
that is given for it. -/
structure BodyField where
  name : String
  mayMiss : Bool
  fault? : Json.Draft → Option BodyFault

namespace BodyField

/-- The fault of a text, a number or another single value. -/
def valueFault? (accepts : Json → Bool) : Json.Draft → Option BodyFault
  | .broken | .number none | .string none => some .syntactic
  | .array .. | .object .. => some .shape
  | draft => if accepts draft.toJson then none else some .shape

/-- The fault of a word. A value that cannot begin a word is one of the syntax. -/
def wordFault? (accepts : String → Bool) : Json.Draft → Option BodyFault
  | .string (some word) => if accepts word then none else some .shape
  | .object ((some word, value) :: rest) closed =>
    if !accepts word then some .shape
    else
      match value with
      | .null => if rest.isEmpty && closed then none else some .syntactic
      | .broken | .number none | .string none => some .syntactic
      | _ => some .shape
  | _ => some .syntactic

/-- The fault of a value that may be null. -/
def nullable (fault? : Json.Draft → Option BodyFault) : Json.Draft → Option BodyFault
  | .null => none
  | draft => fault? draft

def value (name : String) (accepts : Json → Bool) : BodyField :=
  ⟨name, false, valueFault? accepts⟩

def word (name : String) (accepts : String → Bool) : BodyField :=
  ⟨name, false, wordFault? accepts⟩

/-- The field with a value to take where it is missing. -/
def missable (field : BodyField) : BodyField := { field with mayMiss := true }

/-- The field that may be missing or null. -/
def optional (field : BodyField) : BodyField :=
  ⟨field.name, true, nullable field.fault?⟩

end BodyField

/-- The first fault of an object's members. A known name must not be given twice. -/
def membersFault? (fields : List BodyField) (closed : Bool) (seen : List String) :
    List (Option String × Json.Draft) → Option BodyFault
  | [] =>
    if !closed then some .syntactic
    else if fields.any fun field => !field.mayMiss && !seen.contains field.name then
      some .shape
    else none
  | (none, _) :: _ => some .syntactic
  | (some name, draft) :: rest =>
    match fields.find? fun field => field.name = name with
    | none => membersFault? fields closed seen rest
    | some field =>
      if seen.contains name then some .shape
      else (field.fault? draft).or (membersFault? fields closed (name :: seen) rest)

/-- The first fault of an array's elements, which are the fields in their order. -/
def itemsFault? (closed : Bool) : List BodyField → List Json.Draft → Option BodyFault
  | [], [] => if closed then none else some .syntactic
  | [], _ :: _ => some .syntactic
  | fields, [] =>
    if !closed then some .syntactic
    else if fields.all BodyField.mayMiss then none
    else some .shape
  | field :: fields, item :: items => (field.fault? item).or (itemsFault? closed fields items)

/-- The first fault of a body with the given fields. -/
def bodyFault? (fields : List BodyField) (draft : Json.Draft) (complete : Bool) :
    Option BodyFault :=
  let fault := match draft with
    | .object members closed => membersFault? fields closed [] members
    | .array items closed => itemsFault? closed fields items
    | other => BodyField.valueFault? (fun _ => false) other
  fault.or (if complete then none else some .syntactic)

/-- Reads a body with the given fields. -/
def readBody {α : Type} (fields : List BodyField) (read : Json → Option α) (body : String) :
    Except BodyFault α :=
  let (draft, complete) := Json.Draft.ofText body
  match bodyFault? fields draft complete with
  | some fault => .error fault
  | none =>
    match read draft.toJson with
    | some a => .ok a
    | none => .error .shape

end ScanFlow.Http
