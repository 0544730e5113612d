import ScanFlow.Proofs.Json.Reading
import ScanFlow.Proofs.Number.Finite
import ScanFlow.Proofs.Text.Uuid

/-!
Values that are read back from their own writing.

A value may have been written in many ways: with members in any order, unknown ones among them,
as an array, or with an identifier in capitals. Its writer knows one way only, and a reader
rereads if it takes every value that it has ever yielded back from there. Scalars reread, and
options, lists and maps of what does.
-/

namespace ScanFlow

/-! ### Maps in the order of their names -/

namespace SortedMap

variable {κ α : Type} [LT κ] [DecidableEq κ] [DecidableLT κ] [LinearKey κ]

/-- A key above all others is put at the end. -/
theorem insertEntry_last {key : κ} (value : α) {entries : List (κ × α)}
    (h : ∀ entry ∈ entries, entry.1 < key) :
    insertEntry key value entries = entries ++ [(key, value)] := by
  induction entries with
  | nil => rfl
  | cons first rest ih =>
    rw [List.forall_mem_cons] at h
    have hnot : ¬ key < first.1 := fun hlt =>
      LinearKey.lt_irrefl key (LinearKey.lt_trans hlt h.1)
    have hne : key ≠ first.1 := fun heq => LinearKey.lt_irrefl key (heq ▸ h.1)
    rw [insertEntry, if_neg hnot, if_neg hne, ih h.2, List.cons_append]

theorem foldl_insert_sorted {entries : List (κ × α)} {map : SortedMap κ α}
    (h : (map.entries ++ entries).Pairwise fun a b => a.1 < b.1) :
    (entries.foldl (fun map entry => map.insert entry.1 entry.2) map).entries =
      map.entries ++ entries := by
  induction entries generalizing map with
  | nil => simp
  | cons entry rest ih =>
    have hlast : (map.insert entry.1 entry.2).entries = map.entries ++ [entry] :=
      insertEntry_last entry.2 fun other member =>
        (List.pairwise_append.mp h).2.2 other member entry List.mem_cons_self
    rw [List.foldl_cons, ih (by simpa [hlast] using h), hlast]
    simp

/-- The map of the entries of a map is that map. -/
theorem ofList_entries (map : SortedMap κ α) : ofList map.entries = map :=
  ext (foldl_insert_sorted (by simpa [empty] using map.sorted))

end SortedMap

namespace Json

variable {α β : Type} {read : Json → Option α} {write : α → Json}

/-! ### The values that JSON has -/

def Number.isProper : Number → Bool
  | .whole i => decide (-2 ^ 63 ≤ i) && decide (i < 2 ^ 64)
  | .real x => x.isFinite

mutual

/-- All numbers in the value are ones that JSON has. Nothing else is ever read from a text, as
`parse?_proper` says. -/
def isProper : Json → Bool
  | .number n => n.isProper
  | .array items => areProper items
  | .object members => areMembersProper members
  | .null | .bool _ | .string _ => true

def areProper : List Json → Bool
  | [] => true
  | item :: rest => item.isProper && areProper rest

def areMembersProper : List (String × Json) → Bool
  | [] => true
  | (_, value) :: rest => value.isProper && areMembersProper rest

end

theorem areProper_iff {items : List Json} :
    areProper items = true ↔ ∀ item ∈ items, item.isProper = true := by
  induction items with
  | nil => simp [areProper]
  | cons item rest ih => simp [areProper, ih]

theorem areMembersProper_iff {members : List (String × Json)} :
    areMembersProper members = true ↔ ∀ member ∈ members, member.2.isProper = true := by
  induction members with
  | nil => simp [areMembersProper]
  | cons member rest ih => simp [areMembersProper, ih]

def Proper (j : Json) : Prop := j.isProper = true

theorem hereditary_proper : Hereditary Proper where
  items items h := areProper_iff.mp (by simpa [Proper, isProper] using h)
  members members h := areMembersProper_iff.mp (by simpa [Proper, isProper] using h)

/-! ### Scalars -/

/-- Whatever is read from a value that JSON has is read back from its own writing. -/
def Rereads (read : Json → Option α) (write : α → Json) : Prop :=
  YieldsFrom Proper read fun a => read (write a) = some a

theorem rereads_string : Rereads string? .string := fun _ _ _ _ => rfl

theorem rereads_bool : Rereads bool? .bool := fun _ _ _ _ => rfl

theorem nat?_ofNat {limit n : Nat} (h : n ≤ limit) : nat? limit (ofNat n) = some n := by
  simp [nat?, ofNat, h]

theorem rereads_nat (limit : Nat) : Rereads (nat? limit) ofNat :=
  fun j n _ hread => nat?_ofNat (yields_nat limit j n hread)

theorem yieldsFrom_real : YieldsFrom Proper real? fun x => x.isFinite = true := by
  intro j x hj hread
  cases j with
  | number n =>
    cases n with
    | whole i =>
      have hx : Binary64.ofInt i = x := Option.some.inj hread
      simp only [Proper, isProper, Number.isProper, Bool.and_eq_true, decide_eq_true_eq] at hj
      rw [← hx]
      exact Binary64.ofInt_isFinite (by omega)
    | real y =>
      have hx : y = x := Option.some.inj hread
      rw [← hx]
      simpa [Proper, isProper, Number.isProper] using hj
  | _ => cases hread

theorem real?_ofReal {x : Binary64} (h : x.isFinite = true) : real? (ofReal x) = some x := by
  simp [ofReal, h, real?]

theorem uuid?_ofUuid {id : Uuid} (h : id.value < 2 ^ 128) : uuid? (ofUuid id) = some id := by
  simp only [uuid?, ofUuid, string?, Option.bind_some, Uuid.parse?_toString h]

theorem rereads_uuid : Rereads uuid? ofUuid := by
  intro j id _ hread
  obtain ⟨text, -, hparse⟩ := Option.bind_eq_some_iff.mp hread
  exact uuid?_ofUuid (Uuid.parse?_lt hparse)

/-! ### Options, lists and maps -/

/-- Nothing is written as null that is not nothing. -/
theorem option?_ofOption (hnull : ∀ a, write a ≠ .null) {found : Option α}
    (h : ∀ a, found = some a → read (write a) = some a) :
    option? read (ofOption write found) = some found := by
  cases found with
  | none => rfl
  | some a =>
    have hread := h a rfl
    unfold ofOption option?
    split
    · rename_i hwritten
      exact absurd hwritten (hnull a)
    · rw [hread]
      rfl

theorem rereads_option (h : Rereads read write) (hnull : ∀ a, write a ≠ .null) :
    Rereads (option? read) (ofOption write) :=
  fun j found hj hread => option?_ofOption hnull (yieldsFrom_option h j found hj hread)

theorem mapM_map {back : β → Option α} {f : α → β} {items : List α}
    (h : ∀ item ∈ items, back (f item) = some item) : (items.map f).mapM back = some items := by
  induction items with
  | nil => rfl
  | cons item rest ih =>
    rw [List.forall_mem_cons] at h
    simp [List.mapM_cons, h.1, ih h.2]

theorem list?_ofList {items : List α} (h : ∀ item ∈ items, read (write item) = some item) :
    list? read (ofList write items) = some items :=
  mapM_map h

theorem rereads_list (h : Rereads read write) : Rereads (list? read) (ofList write) :=
  fun j items hj hread => list?_ofList (yieldsFrom_list hereditary_proper h j items hj hread)

theorem nameMap?_ofNameMap {map : NameMap α}
    (h : ∀ entry ∈ map.entries, read (write entry.2) = some entry.2) :
    nameMap? read (ofNameMap write map) = some map := by
  have hmembers : ((map.entries.map fun entry => (entry.1, write entry.2)).mapM fun member =>
      (read member.2).map fun a => (member.1, a)) = some map.entries :=
    mapM_map fun entry member => by simp [h entry member]
  change Option.map SortedMap.ofList _ = some map
  rw [hmembers, Option.map_some, SortedMap.ofList_entries]

theorem rereads_nameMap (h : Rereads read write) : Rereads (nameMap? read) (ofNameMap write) :=
  fun j map hj hread =>
    nameMap?_ofNameMap (yieldsFrom_nameMap hereditary_proper h j map hj hread)

/-! ### Fields of a written record -/

theorem lookup?_append (front back : List (String × Json)) (name : String) :
    lookup? (front ++ back) name = (lookup? back name).or (lookup? front name) := by
  simp [lookup?, List.lookup_append]

theorem reads_required {members : List (String × Json)} {name : String} {j : Json} {a : α}
    {next : α → FieldReader β} {result : Option (β × Fields)}
    (hfield : lookup? members name = some j) (hread : read j = some a)
    (hnext : next a (.named members) = result) :
    (required name read >>= next) (.named members) = result := by
  rw [← hnext]
  change (required name read (.named members)).bind _ = _
  simp [required, Fields.next, hfield, hread]

theorem reads_defaulted {members : List (String × Json)} {name : String} {fallback a : α}
    {next : α → FieldReader β} {result : Option (β × Fields)}
    (hfield : (lookup? members name).elim (some fallback) read = some a)
    (hnext : next a (.named members) = result) :
    (defaulted name read fallback >>= next) (.named members) = result := by
  rw [← hnext]
  change (defaulted name read fallback (.named members)).bind _ = _
  cases hlookup : lookup? members name with
  | none =>
    rw [hlookup] at hfield
    cases hfield
    simp [defaulted, Fields.next, hlookup]
  | some j =>
    rw [hlookup] at hfield
    have hread : read j = some a := hfield
    simp [defaulted, Fields.next, hlookup, hread]

theorem record?_object {members : List (String × Json)} {reader : FieldReader α} {a : α}
    (h : reader (.named members) = some (a, .named members)) :
    record? reader (.object members) = some a := by
  simp [record?, readFields, h]

end Json

end ScanFlow
