import ScanFlow.Json.Basic

/-!
JSON values with the members of every object in the order of their names.

Two values that differ only in the order of members have the same sorted form. Of several
members with one name the last one stays, which is also the one that look-ups answer with.
-/

namespace ScanFlow.Json

/-- The members of an object in the order of their names. -/
def sortMembers (members : List (String × Json)) : List (String × Json) :=
  (SortedMap.ofList members : NameMap Json).entries

mutual

/-- The value with the members of all objects sorted. -/
def sorted : Json → Json
  | .array items => .array (sortedItems items)
  | .object members => .object (sortMembers (sortedValues members))
  | j => j

def sortedItems : List Json → List Json
  | [] => []
  | item :: rest => item.sorted :: sortedItems rest

def sortedValues : List (String × Json) → List (String × Json)
  | [] => []
  | (name, value) :: rest => (name, value.sorted) :: sortedValues rest

end

/-- The value that names and positions lead to, one after another. -/
def follow? (j : Json) : List String → Option Json
  | [] => some j
  | name :: rest =>
    match j with
    | .object members => (lookup? members name).bind fun next => next.follow? rest
    | .array items =>
      (Digits.parse? Digits.maxWord64 name).bind fun i =>
        items[i]?.bind fun next => next.follow? rest
    | _ => none

end ScanFlow.Json
