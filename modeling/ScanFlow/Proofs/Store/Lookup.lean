import ScanFlow.Uuid

/-!
Look-ups in sorted maps after the operations that change them.

A map is seen through `get?` only: an insertion changes the look-up of its own key and an
erasure that of the erased keys, and every other look-up stays what it was.
-/

namespace ScanFlow

namespace SortedMap

variable {κ α : Type} [LT κ] [DecidableEq κ]

@[simp] theorem get?_empty (key : κ) : (∅ : SortedMap κ α).get? key = none := rfl

theorem contains_iff {map : SortedMap κ α} {key : κ} :
    map.contains key = true ↔ ∃ value, map.get? key = some value := by
  rw [contains, Option.isSome_iff_exists]

theorem contains_eq_false_iff {map : SortedMap κ α} {key : κ} :
    map.contains key = false ↔ map.get? key = none := by
  simp [contains]

theorem get?_erase (map : SortedMap κ α) (erased key : κ) :
    (map.erase erased).get? key = if key = erased then none else map.get? key := by
  unfold get? erase
  rw [List.find?_filter]
  by_cases hkey : key = erased
  · subst hkey
    simp
  · have hsame : (fun entry : κ × α =>
        decide (decide (entry.1 ≠ erased) = true ∧ decide (entry.1 = key) = true)) =
          fun entry => decide (entry.1 = key) := by
      funext entry
      by_cases hentry : entry.1 = key
      · simp [hentry, hkey]
      · simp [hentry]
    simp only [hkey, if_false]
    rw [hsame]

theorem get?_eraseAll (map : SortedMap κ α) (erased : List κ) (key : κ) :
    (map.eraseAll erased).get? key = if key ∈ erased then none else map.get? key := by
  unfold eraseAll
  induction erased generalizing map with
  | nil => simp
  | cons head rest ih =>
    rw [List.foldl_cons, ih, get?_erase]
    by_cases hrest : key ∈ rest
    · simp [hrest]
    · simp [hrest]

section Entries

variable {κ α : Type} [LT κ] [LinearKey κ]

theorem keys_nodup (map : SortedMap κ α) : map.keys.Nodup := by
  rw [keys, List.Nodup, List.pairwise_map]
  refine map.sorted.imp ?_
  intro a b hlt heq
  exact LinearKey.lt_irrefl b.1 (heq ▸ hlt)

theorem find?_of_mem [DecidableEq κ] {key : κ} {value : α} {entries : List (κ × α)}
    (sorted : entries.Pairwise fun a b => a.1 < b.1) (member : (key, value) ∈ entries) :
    entries.find? (fun entry => entry.1 = key) = some (key, value) := by
  induction entries with
  | nil => cases member
  | cons head rest ih =>
    obtain ⟨hhead, hrest⟩ := List.pairwise_cons.mp sorted
    rcases List.mem_cons.mp member with rfl | hmem
    · simp
    · have hlt : head.1 < key := hhead _ hmem
      have hne : head.1 ≠ key := fun heq => LinearKey.lt_irrefl key (heq ▸ hlt)
      rw [List.find?_cons_of_neg (by simpa using hne)]
      exact ih hrest hmem

/-- The entries of a map are what its look-ups find. -/
theorem mem_entries_iff [DecidableEq κ] {map : SortedMap κ α} {key : κ} {value : α} :
    (key, value) ∈ map.entries ↔ map.get? key = some value := by
  constructor
  · intro member
    rw [get?, find?_of_mem map.sorted member]
    rfl
  · intro hget
    obtain ⟨entry, hfound, rfl⟩ := Option.map_eq_some_iff.mp hget
    have hkey : entry.1 = key := by simpa using List.find?_some hfound
    exact hkey ▸ List.mem_of_find?_eq_some hfound

end Entries

variable [DecidableLT κ]

theorem find?_insertEntry (key : κ) (value : α) (entries : List (κ × α)) (other : κ) :
    ((insertEntry key value entries).find? fun entry => entry.1 = other).map (·.2) =
      if other = key then some value
      else (entries.find? fun entry => entry.1 = other).map (·.2) := by
  induction entries with
  | nil =>
    by_cases hother : other = key
    · simp [insertEntry, hother]
    · simp [insertEntry, hother, Ne.symm hother]
  | cons head rest ih =>
    simp only [insertEntry]
    by_cases hother : other = key
    · subst hother
      split
      · simp
      · split
        · simp
        · rename_i hne
          simpa [Ne.symm hne] using ih
    · split
      · simp [Ne.symm hother]
      · split
        · rename_i heq
          simp [Ne.symm hother, ← heq]
        · by_cases hhead : head.1 = other
          · simp [hhead]
          · simpa [hhead, hother] using ih

variable [LinearKey κ]

theorem get?_insert (map : SortedMap κ α) (key : κ) (value : α) (other : κ) :
    (map.insert key value).get? other = if other = key then some value else map.get? other :=
  find?_insertEntry key value map.entries other

@[simp] theorem get?_insert_self (map : SortedMap κ α) (key : κ) (value : α) :
    (map.insert key value).get? key = some value := by
  simp [get?_insert]

theorem get?_insert_of_ne (map : SortedMap κ α) (key : κ) (value : α) {other : κ}
    (hne : other ≠ key) : (map.insert key value).get? other = map.get? other := by
  simp [get?_insert, hne]

/-- Filling a map from records leaves the keys of no record alone. -/
theorem get?_foldl_insert_of_not_mem {β : Type} (key : β → κ) (value : β → α)
    (records : List β) (map : SortedMap κ α) {other : κ}
    (hnot : ∀ record ∈ records, key record ≠ other) :
    (records.foldl (fun table record => table.insert (key record) (value record)) map).get?
        other = map.get? other := by
  induction records generalizing map with
  | nil => rfl
  | cons head rest ih =>
    rw [List.foldl_cons, ih _ fun record member => hnot record (List.mem_cons_of_mem _ member)]
    exact get?_insert_of_ne _ _ _ (Ne.symm (hnot head List.mem_cons_self))

/-- What is found after the map has been filled was there before, or is one of the records. -/
theorem of_get?_foldl_insert {β : Type} (key : β → κ) (value : β → α) (records : List β)
    (map : SortedMap κ α) {other : κ} {found : α}
    (h : (records.foldl (fun table record => table.insert (key record) (value record)) map).get?
      other = some found) :
    map.get? other = some found ∨
      ∃ record ∈ records, key record = other ∧ value record = found := by
  induction records generalizing map with
  | nil => exact Or.inl h
  | cons head rest ih =>
    rw [List.foldl_cons] at h
    rcases ih _ h with hold | ⟨record, member, hkey, hvalue⟩
    · rw [get?_insert] at hold
      split at hold
      · rename_i hkey
        exact Or.inr ⟨head, List.mem_cons_self, hkey.symm, Option.some.inj hold⟩
      · exact Or.inl hold
    · exact Or.inr ⟨record, List.mem_cons_of_mem _ member, hkey, hvalue⟩

/-- A record with a key of its own is found after the map has been filled. -/
theorem get?_foldl_insert_of_mem {β : Type} (key : β → κ) (value : β → α)
    (records : List β) (map : SortedMap κ α) (hnodup : (records.map key).Nodup)
    {record : β} (member : record ∈ records) :
    (records.foldl (fun table record => table.insert (key record) (value record)) map).get?
        (key record) = some (value record) := by
  induction records generalizing map with
  | nil => simp at member
  | cons head rest ih =>
    rw [List.map_cons, List.nodup_cons] at hnodup
    rw [List.foldl_cons]
    rcases List.mem_cons.mp member with rfl | hrest
    · rw [get?_foldl_insert_of_not_mem key value rest]
      · exact get?_insert_self _ _ _
      · intro other hother heq
        exact hnodup.1 (heq ▸ List.mem_map_of_mem hother)
    · exact ih _ hnodup.2 hrest

end SortedMap

/-- Two numbers never share an identifier. -/
theorem Uuid.generated_injective {m n : Nat} (h : generated m = generated n) : m = n := by
  have hvalue := congrArg value h
  simp only [generated] at hvalue
  omega

end ScanFlow
