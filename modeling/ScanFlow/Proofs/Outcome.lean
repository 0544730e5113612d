/-!
Outcomes that are values or errors.

A step after another one has an outcome only if the first has one. A pass over a list of items,
each of which may fail, fails with the first that does.
-/

namespace ScanFlow

/-- What follows an outcome gives a value only from a value. -/
theorem ok_of_bind {ε α β : Type} {first : Except ε α} {next : α → Except ε β} {b : β}
    (h : first >>= next = .ok b) : ∃ a, first = .ok a ∧ next a = .ok b := by
  cases first with
  | error e => cases h
  | ok a => exact ⟨a, rfl, h⟩

theorem error_of_bind {ε α β : Type} {first : Except ε α} {next : α → Except ε β} {e : ε}
    (h : first >>= next = .error e) :
    first = .error e ∨ ∃ a, first = .ok a ∧ next a = .error e := by
  cases first with
  | error _ => exact Or.inl (by cases h; rfl)
  | ok a => exact Or.inr ⟨a, rfl, h⟩

/-! ### The first fault of a list -/

section First

variable {α β ε : Type} {faulty : α → Bool} {complaint : α → ε}

theorem mapM_error_iff {f : α → Except ε β}
    (h : ∀ item e, f item = .error e ↔ faulty item = true ∧ e = complaint item)
    (items : List α) (e : ε) :
    items.mapM f = .error e ↔ ∃ item, items.find? faulty = some item ∧ e = complaint item := by
  induction items with
  | nil => simp [pure, Except.pure]
  | cons first rest ih =>
    rw [List.mapM_cons]
    cases hfirst : f first with
    | error fault =>
      obtain ⟨hfaulty, rfl⟩ := (h first fault).mp hfirst
      simp [bind, Except.bind, hfaulty, eq_comm]
    | ok value =>
      have hsound : faulty first = false := by
        refine Bool.eq_false_iff.mpr fun hfaulty => ?_
        cases hfirst.symm.trans ((h first _).mpr ⟨hfaulty, rfl⟩)
      rw [List.find?_cons, hsound, ← ih]
      cases rest.mapM f <;> simp [bind, Except.bind, pure, Except.pure]

theorem foldlM_error_iff {f : β → α → Except ε β}
    (h : ∀ state item e, f state item = .error e ↔ faulty item = true ∧ e = complaint item)
    (items : List α) (state : β) (e : ε) :
    items.foldlM f state = .error e ↔
      ∃ item, items.find? faulty = some item ∧ e = complaint item := by
  induction items generalizing state with
  | nil => simp [pure, Except.pure]
  | cons first rest ih =>
    rw [List.foldlM_cons]
    cases hfirst : f state first with
    | error fault =>
      obtain ⟨hfaulty, rfl⟩ := (h state first fault).mp hfirst
      simp [bind, Except.bind, hfaulty, eq_comm]
    | ok next =>
      have hsound : faulty first = false := by
        refine Bool.eq_false_iff.mpr fun hfaulty => ?_
        cases hfirst.symm.trans ((h state first _).mpr ⟨hfaulty, rfl⟩)
      rw [List.find?_cons, hsound, ← ih next]
      rfl

/-- What fails with the first faulty item succeeds where no item is faulty. -/
theorem exists_ok_iff {result : Except ε β} {items : List α}
    (h : ∀ e, result = .error e ↔
      ∃ item, items.find? faulty = some item ∧ e = complaint item) :
    (∃ b, result = .ok b) ↔ ∀ item ∈ items, faulty item = false := by
  constructor
  · rintro ⟨b, rfl⟩ item member
    cases hfaulty : items.find? faulty with
    | none => simpa using List.find?_eq_none.mp hfaulty item member
    | some first => cases (h (complaint first)).mpr ⟨first, hfaulty, rfl⟩
  · intro hsound
    cases result with
    | ok b => exact ⟨b, rfl⟩
    | error e =>
      obtain ⟨item, hfaulty, -⟩ := (h e).mp rfl
      have hitem := hsound item (List.mem_of_find?_eq_some hfaulty)
      simp [List.find?_some hfaulty] at hitem

end First

end ScanFlow
