import ScanFlow.SortedMap
import ScanFlow.Number.Binary64
import ScanFlow.Timestamp
import ScanFlow.Uuid

/-!
JSON values and the scalar types that travel in them.

A number is a whole number that fits 64 bits, or a binary floating-point number. The
two are different values: a whole number is accepted where a real one is asked for,
never the other way round. Members of an object keep the order in which they were
written; `Json.lookup?` answers with the last member of a name.
-/

namespace ScanFlow

namespace Json

/-- A JSON number. Whole numbers lie between `-2 ^ 63` and `2 ^ 64 - 1`. -/
inductive Number where
  | whole (value : Int)
  | real (value : Binary64)
  deriving DecidableEq, Repr

end Json

/-- A JSON value. -/
inductive Json where
  | null
  | bool (value : Bool)
  | number (value : Json.Number)
  | string (text : String)
  | array (items : List Json)
  | object (members : List (String × Json))
  deriving Repr

namespace Json

instance : Inhabited Json := ⟨.null⟩

/-! ### Writing scalars -/

def ofNat (n : Nat) : Json := .number (.whole n)

def ofInt (i : Int) : Json := .number (.whole i)

/-- A real number; JSON has no text for infinities and not-a-number. -/
def ofReal (x : Binary64) : Json := if x.isFinite then .number (.real x) else .null

def ofUuid (id : Uuid) : Json := .string id.toString

def ofTimestamp (t : Timestamp) : Json := .string t.toString

def ofOption {α : Type} (write : α → Json) : Option α → Json
  | none => .null
  | some a => write a

def ofList {α : Type} (write : α → Json) (items : List α) : Json := .array (items.map write)

/-- A map from names as an object, in the order of the names. -/
def ofNameMap {α : Type} (write : α → Json) (map : NameMap α) : Json :=
  .object (map.entries.map fun (name, value) => (name, write value))

/-! ### Reading scalars -/

/-- A member of an object; of several members with one name the last one counts. -/
def lookup? (members : List (String × Json)) (name : String) : Option Json :=
  members.reverse.lookup name

def bool? : Json → Option Bool
  | .bool b => some b
  | _ => none

def string? : Json → Option String
  | .string s => some s
  | _ => none

/-- A whole number between zero and `limit`. -/
def nat? (limit : Nat) : Json → Option Nat
  | .number (.whole i) => if 0 ≤ i && i ≤ limit then some i.toNat else none
  | _ => none

/-- A whole number between the given ends. -/
def int? (least greatest : Int) : Json → Option Int
  | .number (.whole i) => if least ≤ i && i ≤ greatest then some i else none
  | _ => none

/-- Any number; a whole number is rounded. -/
def real? : Json → Option Binary64
  | .number (.whole i) => some (.ofInt i)
  | .number (.real x) => some x
  | _ => none

def uuid? (j : Json) : Option Uuid := j.string?.bind Uuid.parse?

def timestamp? (j : Json) : Option Timestamp := j.string?.bind Timestamp.parse?

/-- An optional value: null stands for none. -/
def option? {α : Type} (read : Json → Option α) : Json → Option (Option α)
  | .null => some none
  | j => (read j).map some

def list? {α : Type} (read : Json → Option α) : Json → Option (List α)
  | .array items => items.mapM read
  | _ => none

/-- An object as a map from names. -/
def nameMap? {α : Type} (read : Json → Option α) : Json → Option (NameMap α)
  | .object members =>
    (members.mapM fun member => (read member.2).map fun a => (member.1, a)).map SortedMap.ofList
  | _ => none

/-- One of a fixed set of words, written as a text, or as an object whose only member
has the word as its name and null as its value. -/
def word? {α : Type} (meaning : String → Option α) : Json → Option α
  | .string s => meaning s
  | .object [(name, .null)] => meaning name
  | _ => none

end Json

/-! ### Types with a form in JSON -/

/-- A type whose values are written as JSON and read back from it. -/
class Wire (α : Type) where
  toJson : α → Json
  ofJson? : Json → Option α

instance : Wire Bool := ⟨.bool, Json.bool?⟩

instance : Wire String := ⟨.string, Json.string?⟩

instance : Wire Uuid := ⟨.ofUuid, Json.uuid?⟩

instance : Wire Timestamp := ⟨.ofTimestamp, Json.timestamp?⟩

instance {α : Type} [Wire α] : Wire (Option α) :=
  ⟨.ofOption Wire.toJson, Json.option? Wire.ofJson?⟩

instance {α : Type} [Wire α] : Wire (List α) := ⟨.ofList Wire.toJson, Json.list? Wire.ofJson?⟩

end ScanFlow
