/-!
Finite maps, held in ascending order of their keys.

Inserting at a key that is already there replaces its entry, so a map built from a list
keeps the last entry of every key. Since the order is fixed by the keys, two maps with
the same entries are the same map, whatever the order in which they were filled.
-/

namespace ScanFlow

/-- The laws of a strict linear order on keys. -/
class LinearKey (κ : Type) [LT κ] : Prop where
  lt_irrefl : ∀ a : κ, ¬ a < a
  lt_trans : ∀ {a b c : κ}, a < b → b < c → a < c
  eq_of_not_lt : ∀ {a b : κ}, ¬ a < b → ¬ b < a → a = b

/-- Names are compared by code points, which is also the order of their bytes. -/
instance : LinearKey String where
  lt_irrefl := String.lt_irrefl
  lt_trans := String.lt_trans
  eq_of_not_lt h₁ h₂ := String.le_antisymm (String.not_lt.mp h₂) (String.not_lt.mp h₁)

/-- Entries in strictly ascending order of their keys. -/
structure SortedMap (κ α : Type) [LT κ] where
  entries : List (κ × α)
  sorted : entries.Pairwise fun a b => a.1 < b.1

namespace SortedMap

variable {κ α : Type} [LT κ]

@[ext] theorem ext {a b : SortedMap κ α} (h : a.entries = b.entries) : a = b := by
  cases a
  cases b
  cases h
  rfl

instance [DecidableEq κ] [DecidableEq α] : DecidableEq (SortedMap κ α) := fun a b =>
  if h : a.entries = b.entries then isTrue (ext h) else isFalse fun e => h (e ▸ rfl)

def empty : SortedMap κ α := ⟨[], List.Pairwise.nil⟩

instance : Inhabited (SortedMap κ α) := ⟨empty⟩

instance : EmptyCollection (SortedMap κ α) := ⟨empty⟩

def size (map : SortedMap κ α) : Nat := map.entries.length

def keys (map : SortedMap κ α) : List κ := map.entries.map (·.1)

def values (map : SortedMap κ α) : List α := map.entries.map (·.2)

variable [DecidableEq κ]

def get? (map : SortedMap κ α) (key : κ) : Option α :=
  (map.entries.find? fun entry => entry.1 = key).map (·.2)

def contains (map : SortedMap κ α) (key : κ) : Bool := (map.get? key).isSome

/-- Takes the entry of a key away. -/
def erase (map : SortedMap κ α) (key : κ) : SortedMap κ α :=
  ⟨map.entries.filter fun entry => entry.1 ≠ key, map.sorted.filter _⟩

/-- Takes the entries of several keys away. -/
def eraseAll (map : SortedMap κ α) (keys : List κ) : SortedMap κ α := keys.foldl erase map

variable [DecidableLT κ]

/-- Puts an entry at its place in a sorted list, or in the place of the one with its key. -/
def insertEntry (key : κ) (value : α) : List (κ × α) → List (κ × α)
  | [] => [(key, value)]
  | entry :: rest =>
    if key < entry.1 then (key, value) :: entry :: rest
    else if key = entry.1 then (key, value) :: rest
    else entry :: insertEntry key value rest

theorem mem_insertEntry {key : κ} {value : α} {entries : List (κ × α)} {entry : κ × α}
    (h : entry ∈ insertEntry key value entries) :
    entry = (key, value) ∨ entry ∈ entries := by
  induction entries with
  | nil => simpa [insertEntry] using h
  | cons head rest ih =>
    simp only [insertEntry] at h
    split at h
    · simpa using h
    · split at h
      · rcases List.mem_cons.mp h with h | h
        · exact Or.inl h
        · exact Or.inr (List.mem_cons_of_mem _ h)
      · rcases List.mem_cons.mp h with h | h
        · exact Or.inr (h ▸ List.mem_cons_self)
        · rcases ih h with h | h
          · exact Or.inl h
          · exact Or.inr (List.mem_cons_of_mem _ h)

variable [LinearKey κ]

theorem insertEntry_sorted (key : κ) (value : α) {entries : List (κ × α)}
    (h : entries.Pairwise fun a b => a.1 < b.1) :
    (insertEntry key value entries).Pairwise fun a b => a.1 < b.1 := by
  induction entries with
  | nil => simp [insertEntry]
  | cons head rest ih =>
    have hhead := (List.pairwise_cons.mp h).1
    have hrest := (List.pairwise_cons.mp h).2
    simp only [insertEntry]
    split
    · rename_i hlt
      refine List.pairwise_cons.mpr ⟨?_, h⟩
      intro entry member
      rcases List.mem_cons.mp member with rfl | member
      · exact hlt
      · exact LinearKey.lt_trans hlt (hhead entry member)
    · rename_i hnot
      split
      · rename_i heq
        refine List.pairwise_cons.mpr ⟨?_, hrest⟩
        intro entry member
        exact heq ▸ hhead entry member
      · rename_i hne
        refine List.pairwise_cons.mpr ⟨?_, ih hrest⟩
        intro entry member
        rcases mem_insertEntry member with rfl | member
        · rcases Decidable.em (head.1 < key) with hlt | hge
          · exact hlt
          · exact absurd (LinearKey.eq_of_not_lt hnot hge) hne
        · exact hhead entry member

def insert (map : SortedMap κ α) (key : κ) (value : α) : SortedMap κ α :=
  ⟨insertEntry key value map.entries, insertEntry_sorted key value map.sorted⟩

/-- The map of a list of entries; of two entries with one key the later one stays. -/
def ofList (entries : List (κ × α)) : SortedMap κ α :=
  entries.foldl (fun map entry => map.insert entry.1 entry.2) empty

end SortedMap

/-- A map from names. -/
abbrev NameMap (α : Type) := SortedMap String α

end ScanFlow
