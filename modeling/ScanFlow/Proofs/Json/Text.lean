import ScanFlow.Json.Draft
import ScanFlow.Proofs.Json.Rereading

/-!
Values that have been read from JSON text.

All numbers in them are ones that JSON has: whole numbers are taken up only as far as they fit
64 bits, and what would be infinite is refused.
-/

namespace ScanFlow.Json

namespace Draft

/-! ### Numbers -/

theorem wholeDigits_le {s : Significand} (full : Bool) (cs : List Char)
    (h : s.value ≤ Digits.maxWord64) : (wholeDigits s full cs).1.value ≤ Digits.maxWord64 := by
  induction cs generalizing s full with
  | nil => exact h
  | cons c rest ih =>
    unfold wholeDigits
    dsimp only
    split
    · exact ih true h
    · rename_i hfits
      simp only [Bool.or_eq_true, decide_eq_true_eq, not_or] at hfits
      exact ih false (by simpa using hfits.2)

theorem placeDigits_le {s : Significand} (cs : List Char) (h : s.value ≤ Digits.maxWord64) :
    (placeDigits s cs).value ≤ Digits.maxWord64 := by
  induction cs generalizing s with
  | nil => exact h
  | cons c rest ih =>
    unfold placeDigits
    dsimp only
    split
    · exact h
    · rename_i hfits
      exact ih (by simpa using hfits)

theorem proper_of_parts {negative : Bool} {value : Nat} {exponent : Int} {n : Number}
    (hvalue : value ≤ Digits.maxWord64)
    (h : (Binary64.ofParts negative value exponent).map Number.real = some n) :
    n.isProper = true := by
  obtain ⟨x, hx, rfl⟩ := Option.map_eq_some_iff.mp h
  exact Binary64.ofParts_isFinite (Nat.le_trans hvalue (by decide)) hx

theorem wholeNumber_proper {negative full : Bool} {s : Significand} {n : Number}
    (hs : s.value ≤ Digits.maxWord64) (h : wholeNumber negative s full = some n) :
    n.isProper = true := by
  have hlimit : Digits.maxWord64 = 2 ^ 64 - 1 := rfl
  unfold wholeNumber at h
  split at h
  · exact proper_of_parts hs h
  · split at h
    · rw [← Option.some.inj h]
      simp only [Number.isProper, Bool.and_eq_true, decide_eq_true_eq]
      omega
    · split at h
      · rw [← Option.some.inj h]
        rfl
      · split at h
        · rw [← Option.some.inj h]
          simp only [Number.isProper, Bool.and_eq_true, decide_eq_true_eq]
          omega
        · rw [← Option.some.inj h]
          exact Binary64.signed_isFinite true (Nat.le_trans hs (by decide))

theorem realNumber_proper {negative : Bool} {s : Significand} {e : Int} {n : Number}
    (hs : s.value ≤ Digits.maxWord64) (h : realNumber negative s e = some n) :
    n.isProper = true := by
  unfold realNumber at h
  split at h
  · exact proper_of_parts hs h
  · split at h
    · rw [← Option.some.inj h]
      rfl
    · cases h

theorem number_proper {n : Option Number} (h : ∀ m, n = some m → m.isProper = true) :
    (Draft.number n).toJson.Proper := by
  cases n with
  | none => rfl
  | some m => exact h m rfl

theorem readUnsigned_proper (negative : Bool) (cs : List Char) :
    (readUnsigned negative cs).1.toJson.Proper := by
  have hdigits : (wholeDigits ⟨0, 0⟩ false (cs.takeWhile Digits.isDigit)).1.value ≤
      Digits.maxWord64 := wholeDigits_le false _ (by decide)
  have hreal : ∀ s e, s.value ≤ Digits.maxWord64 →
      (Draft.number (realNumber negative s e)).toJson.Proper :=
    fun s e hs => number_proper fun n => realNumber_proper hs
  have hwhole : ∀ s full, s.value ≤ Digits.maxWord64 →
      (Draft.number (wholeNumber negative s full)).toJson.Proper :=
    fun s full hs => number_proper fun n => wholeNumber_proper hs
  unfold readUnsigned
  dsimp only
  split
  · rfl
  · split
    -- With a point the digits go on after it, without one they are complete.
    · rename_i more _
      have hplaces := placeDigits_le (more.takeWhile Digits.isDigit) hdigits
      repeat' split
      all_goals first | rfl | exact hreal _ _ hplaces | exact hwhole _ _ hplaces
    · repeat' split
      all_goals first | rfl | exact hreal _ _ hdigits | exact hwhole _ _ hdigits

/-! ### Texts and words -/

theorem readString_proper (fuel : Nat) (read : Option (List Char)) (cs : List Char) :
    (readString fuel read cs).1.toJson.Proper := by
  fun_induction readString fuel read cs <;> first | rfl | assumption

theorem readWord_proper {word : List Char} {value : Draft} (cs : List Char)
    (h : value.toJson.Proper) : (readWord word value cs).1.toJson.Proper := by
  unfold readWord
  split
  · exact h
  · rfl

/-! ### Values -/

theorem array_proper {items : List Draft} (closed : Bool)
    (h : ∀ item ∈ items, item.toJson.Proper) : (Draft.array items closed).toJson.Proper := by
  change areProper (itemsToJson items) = true
  induction items with
  | nil => rfl
  | cons item rest ih =>
    rw [List.forall_mem_cons] at h
    rw [itemsToJson, areProper, ih h.2, Bool.and_true]
    exact h.1

/-- Of several members with one name only one is kept, which is one of them. -/
theorem object_proper {members : List (Option String × Draft)} (closed : Bool)
    (h : ∀ member ∈ members, member.2.toJson.Proper) :
    (Draft.object members closed).toJson.Proper := by
  change areMembersProper (membersToJson members) = true
  induction members with
  | nil => rfl
  | cons member rest ih =>
    rw [List.forall_mem_cons] at h
    rw [membersToJson]
    split
    · exact ih h.2
    · rw [areMembersProper, ih h.2, Bool.and_true]
      exact h.1

/-- With this bound on their depth, values, items and members are read as JSON has them, if those
read before are so. -/
structure ReadsProper (fuel : Nat) : Prop where
  value : ∀ cs, (readValue fuel cs).1.toJson.Proper
  items : ∀ items cs, (∀ item ∈ items, item.toJson.Proper) →
    (readItems fuel items cs).1.toJson.Proper
  members : ∀ members cs, (∀ member ∈ members, member.2.toJson.Proper) →
    (readMembers fuel members cs).1.toJson.Proper

namespace ReadsProper

variable {fuel : Nat}

theorem next_value (h : ReadsProper fuel) (cs : List Char) :
    (readValue (fuel + 1) cs).1.toJson.Proper := by
  unfold readValue
  split
  · exact readWord_proper _ rfl
  · exact readWord_proper _ rfl
  · exact readWord_proper _ rfl
  · exact readString_proper _ _ _
  · exact readUnsigned_proper _ _
  · split
    · rfl
    · exact h.items _ _ (by simp)
  · split
    · rfl
    · exact h.members _ _ (by simp)
  · exact readUnsigned_proper _ _

theorem next_items (h : ReadsProper fuel) {items : List Draft} (cs : List Char)
    (hitems : ∀ item ∈ items, item.toJson.Proper) :
    (readItems (fuel + 1) items cs).1.toJson.Proper := by
  have hmore : ∀ item ∈ (readValue fuel cs).1 :: items, item.toJson.Proper :=
    List.forall_mem_cons.mpr ⟨h.value cs, hitems⟩
  have hread (closed : Bool) :
      (Draft.array ((readValue fuel cs).1 :: items).reverse closed).toJson.Proper :=
    array_proper closed fun item member => hmore item (List.mem_reverse.mp member)
  unfold readItems
  dsimp only
  split
  · split
    · exact h.items _ _ hmore
    · exact hread true
    · exact hread false
  · exact hread false

theorem next_members (h : ReadsProper fuel) {members : List (Option String × Draft)}
    (cs : List Char) (hmembers : ∀ member ∈ members, member.2.toJson.Proper) :
    (readMembers (fuel + 1) members cs).1.toJson.Proper := by
  have hmore (name : Option String) {value : Draft} (hvalue : value.toJson.Proper) :
      ∀ member ∈ (name, value) :: members, member.2.toJson.Proper :=
    List.forall_mem_cons.mpr ⟨hvalue, hmembers⟩
  have hread {read : List (Option String × Draft)} (closed : Bool)
      (hproper : ∀ member ∈ read, member.2.toJson.Proper) :
      (Draft.object read.reverse closed).toJson.Proper :=
    object_proper closed fun member hmember => hproper member (List.mem_reverse.mp hmember)
  unfold readMembers
  dsimp only
  split
  · split
    · split
      · split
        · split
          · exact h.members _ _ (hmore _ (h.value _))
          · exact hread true (hmore _ (h.value _))
          · exact hread false (hmore _ (h.value _))
        · exact hread false (hmore _ (h.value _))
      · exact hread false (hmore _ rfl)
    · exact hread false hmembers
  · exact hread false hmembers

end ReadsProper

theorem readsProper (fuel : Nat) : ReadsProper fuel := by
  induction fuel with
  | zero =>
    constructor
    · intro cs
      rfl
    · intro items cs h
      exact array_proper false (by simpa using h)
    · intro members cs h
      exact object_proper false (by simpa using h)
  | succ fuel ih => exact ⟨ih.next_value, fun _ => ih.next_items, fun _ => ih.next_members⟩

end Draft

/-- Every value that has been read from a text is one that JSON has. -/
theorem parse?_proper {text : String} {j : Json} (h : parse? text = some j) : j.Proper := by
  unfold parse? Draft.ofText at h
  dsimp only at h
  split at h
  · rw [← Option.some.inj h]
    exact (Draft.readsProper _).value _
  · cases h

end ScanFlow.Json
