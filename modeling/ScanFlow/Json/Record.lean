import ScanFlow.Json.Basic

/-!
Reading records with fixed fields.

A record is written as an object, whose unknown members are ignored, or as an array of
its fields in their order. A `required` field must be there. An `optional` field may be
missing in an object, like one that is null, but not in an array. A `defaulted` field
may be missing in both, in an array together with all fields after it. An array must
not have more elements than the record has fields.
-/

namespace ScanFlow.Json

/-- Where the fields of a record are taken from. -/
inductive Fields where
  | named (members : List (String × Json))
  | positional (items : List Json)

/-- A reader of some fields: takes the positional ones from the front. -/
abbrev FieldReader (α : Type) := StateT Fields Option α

/-- The value written for the next field, if there is one. -/
def Fields.next (name : String) : Fields → Option Json × Fields
  | .named members => (lookup? members name, .named members)
  | .positional [] => (none, .positional [])
  | .positional (item :: rest) => (some item, .positional rest)

/-- A field that must be written. -/
def required {α : Type} (name : String) (read : Json → Option α) : FieldReader α := fun fields =>
  match fields.next name with
  | (some j, rest) => (read j).map fun a => (a, rest)
  | (none, _) => none

/-- A field that is null or missing for none. -/
def optional {α : Type} (name : String) (read : Json → Option α) : FieldReader (Option α) :=
  fun fields =>
    match fields, fields.next name with
    | _, (some j, rest) => (option? read j).map fun a => (a, rest)
    | .named _, (none, rest) => some (none, rest)
    | .positional _, (none, _) => none

/-- A field with a value to take where it is missing. -/
def defaulted {α : Type} (name : String) (read : Json → Option α) (fallback : α) :
    FieldReader α := fun fields =>
  match fields.next name with
  | (some j, rest) => (read j).map fun a => (a, rest)
  | (none, rest) => some (fallback, rest)

/-- Reads all fields of a record and nothing more. -/
def readFields {α : Type} (reader : FieldReader α) (fields : Fields) : Option α :=
  match reader fields with
  | some (a, .named _) => some a
  | some (a, .positional []) => some a
  | _ => none

/-- Reads a record from an object or an array. -/
def record? {α : Type} (reader : FieldReader α) : Json → Option α
  | .object members => readFields reader (.named members)
  | .array items => readFields reader (.positional items)
  | _ => none

/-- Reads a record from an object only. -/
def openRecord? {α : Type} (reader : FieldReader α) : Json → Option α
  | .object members => readFields reader (.named members)
  | _ => none

end ScanFlow.Json
