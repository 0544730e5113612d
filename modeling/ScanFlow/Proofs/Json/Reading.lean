import ScanFlow.Json.Record

/-!
What is known of a value because it has been read.

A reader yields values with a property if it refuses every text that would give another
one. Properties pass from the readers of fields to those of records, and from the readers
of items to those of lists and maps. Where only texts of some kind are read, it is enough that
a reader refuses those of that kind.
-/

namespace ScanFlow

/-- Every entry that a map holds after an insertion was inserted or held before. -/
theorem SortedMap.mem_ofList {κ α : Type} [LT κ] [DecidableEq κ] [DecidableLT κ] [LinearKey κ]
    {entries : List (κ × α)} {entry : κ × α} (h : entry ∈ (ofList entries).entries) :
    entry ∈ entries := by
  have hfold : ∀ (entries : List (κ × α)) (map : SortedMap κ α),
      entry ∈ (entries.foldl (fun map entry => map.insert entry.1 entry.2) map).entries →
        entry ∈ map.entries ∨ entry ∈ entries := by
    intro entries
    induction entries with
    | nil => exact fun map h => Or.inl h
    | cons first rest ih =>
      intro map h
      rcases ih _ h with h | h
      · rcases mem_insertEntry h with rfl | h
        · exact Or.inr List.mem_cons_self
        · exact Or.inl h
      · exact Or.inr (List.mem_cons_of_mem _ h)
  rcases hfold entries empty h with h | h
  · cases h
  · exact h

namespace Json

variable {α β : Type} {kind : Json → Prop}

/-! ### Values of one kind -/

structure Hereditary (kind : Json → Prop) : Prop where
  items : ∀ items, kind (.array items) → ∀ item ∈ items, kind item
  members : ∀ members, kind (.object members) → ∀ member ∈ members, kind member.2

/-- From values of the kind, the reader yields only values with the property. -/
def YieldsFrom (kind : Json → Prop) (read : Json → Option α) (property : α → Prop) : Prop :=
  ∀ j a, kind j → read j = some a → property a

def Fields.All (kind : Json → Prop) : Fields → Prop
  | .named members => ∀ member ∈ members, kind member.2
  | .positional items => ∀ item ∈ items, kind item

def FieldReader.YieldsFrom (kind : Json → Prop) (reader : FieldReader α)
    (property : α → Prop) : Prop :=
  ∀ fields a rest, fields.All kind → reader fields = some (a, rest) → property a ∧ rest.All kind

theorem mem_of_lookup? {members : List (String × Json)} {name : String} {j : Json}
    (h : lookup? members name = some j) : (name, j) ∈ members := by
  obtain ⟨before, after, hreverse, -⟩ := List.lookup_eq_some_iff.mp h
  rw [← List.mem_reverse, hreverse]
  simp

theorem Fields.next_all {fields : Fields} (name : String) (h : fields.All kind) :
    (∀ j, (fields.next name).1 = some j → kind j) ∧ (fields.next name).2.All kind := by
  cases fields with
  | named members =>
    constructor
    · intro j hlookup
      exact h (name, j) (mem_of_lookup? hlookup)
    · exact h
  | positional items =>
    cases items with
    | nil => exact ⟨nofun, h⟩
    | cons item rest =>
      constructor
      · rintro j ⟨⟩
        exact h item List.mem_cons_self
      · intro other member
        exact h other (List.mem_cons_of_mem _ member)

theorem mem_of_mapM {read : α → Option β} {items : List α} {values : List β}
    (h : items.mapM read = some values) :
    ∀ value ∈ values, ∃ item ∈ items, read item = some value := by
  induction items generalizing values with
  | nil =>
    cases h
    nofun
  | cons first rest ih =>
    rw [List.mapM_cons] at h
    obtain ⟨head, hhead, h⟩ := Option.bind_eq_some_iff.mp h
    obtain ⟨tail, htail, h⟩ := Option.bind_eq_some_iff.mp h
    cases h
    intro value member
    rcases List.mem_cons.mp member with rfl | member
    · exact ⟨first, List.mem_cons_self, hhead⟩
    · obtain ⟨item, hitem, hread⟩ := ih htail value member
      exact ⟨item, List.mem_cons_of_mem _ hitem, hread⟩

theorem yieldsFrom_list (hkind : Hereditary kind) {read : Json → Option α} {property : α → Prop}
    (h : YieldsFrom kind read property) :
    YieldsFrom kind (list? read) fun items => ∀ item ∈ items, property item := by
  intro j items hj hread
  cases j with
  | array values =>
    intro item member
    obtain ⟨value, hmember, hvalue⟩ := mem_of_mapM hread item member
    exact h value item (hkind.items values hj value hmember) hvalue
  | _ => cases hread

theorem yieldsFrom_option {read : Json → Option α} {property : α → Prop}
    (h : YieldsFrom kind read property) :
    YieldsFrom kind (option? read) fun found => ∀ a, found = some a → property a := by
  intro j found hj hread a hfound
  subst hfound
  cases j with
  | null => cases hread
  | _ =>
    obtain ⟨_, hvalue, heq⟩ := Option.map_eq_some_iff.mp hread
    cases heq
    exact h _ a hj hvalue

/-- Of the entries of a map also the names are known from the members that it is read from. -/
theorem mem_of_nameMap? {read : Json → Option α} {members : List (String × Json)}
    {map : NameMap α} (h : nameMap? read (.object members) = some map) :
    ∀ entry ∈ map.entries, ∃ value, (entry.1, value) ∈ members ∧ read value = some entry.2 := by
  obtain ⟨entries, hentries, rfl⟩ := Option.map_eq_some_iff.mp h
  intro entry member
  obtain ⟨⟨name, value⟩, hmember, hnamed⟩ :=
    mem_of_mapM hentries entry (SortedMap.mem_ofList member)
  obtain ⟨a, hvalue, rfl⟩ := Option.map_eq_some_iff.mp hnamed
  exact ⟨value, hmember, hvalue⟩

theorem yieldsFrom_nameMap (hkind : Hereditary kind) {read : Json → Option α}
    {property : α → Prop} (h : YieldsFrom kind read property) :
    YieldsFrom kind (nameMap? read) fun map => ∀ entry ∈ map.entries, property entry.2 := by
  intro j map hj hread
  cases j with
  | object members =>
    intro entry member
    obtain ⟨value, hmember, hvalue⟩ := mem_of_nameMap? hread entry member
    exact h value entry.2 (hkind.members members hj _ hmember) hvalue
  | _ => cases hread

theorem yieldsFrom_required {read : Json → Option α} {property : α → Prop} (name : String)
    (h : YieldsFrom kind read property) : (required name read).YieldsFrom kind property := by
  intro fields a rest hfields hread
  have hnext := fields.next_all name hfields
  unfold required at hread
  split at hread
  · rename_i j after hfield
    obtain ⟨_, hvalue, heq⟩ := Option.map_eq_some_iff.mp hread
    cases heq
    rw [hfield] at hnext
    exact ⟨h j a (hnext.1 j rfl) hvalue, hnext.2⟩
  · cases hread

theorem yieldsFrom_defaulted {read : Json → Option α} {property : α → Prop} {fallback : α}
    (name : String) (h : YieldsFrom kind read property) (hfallback : property fallback) :
    (defaulted name read fallback).YieldsFrom kind property := by
  intro fields a rest hfields hread
  have hnext := fields.next_all name hfields
  unfold defaulted at hread
  split at hread
  · rename_i j after hfield
    obtain ⟨_, hvalue, heq⟩ := Option.map_eq_some_iff.mp hread
    cases heq
    rw [hfield] at hnext
    exact ⟨h j a (hnext.1 j rfl) hvalue, hnext.2⟩
  · rename_i after hfield
    cases hread
    rw [hfield] at hnext
    exact ⟨hfallback, hnext.2⟩

theorem yieldsFrom_bind {reader : FieldReader α} {next : α → FieldReader β} {known : α → Prop}
    {property : β → Prop} (hreader : reader.YieldsFrom kind known)
    (hnext : ∀ a, known a → (next a).YieldsFrom kind property) :
    (reader >>= next).YieldsFrom kind property := by
  intro fields b rest hfields hread
  obtain ⟨⟨a, between⟩, hfirst, hsecond⟩ := Option.bind_eq_some_iff.mp hread
  obtain ⟨ha, hbetween⟩ := hreader fields a between hfields hfirst
  exact hnext a ha between b rest hbetween hsecond

theorem yieldsFrom_pure {a : α} {property : α → Prop} (h : property a) :
    (pure a : FieldReader α).YieldsFrom kind property := by
  intro fields b rest hfields hread
  cases hread
  exact ⟨h, hfields⟩

theorem yieldsFrom_record (hkind : Hereditary kind) {reader : FieldReader α}
    {property : α → Prop} (h : reader.YieldsFrom kind property) :
    YieldsFrom kind (record? reader) property := by
  have hfields : ∀ fields a, fields.All kind → readFields reader fields = some a → property a := by
    intro fields a hall hread
    unfold readFields at hread
    split at hread
    · rename_i hyield
      cases hread
      exact (h _ a _ hall hyield).1
    · rename_i hyield
      cases hread
      exact (h _ a _ hall hyield).1
    · cases hread
  intro j a hj hread
  cases j with
  | object members => exact hfields (.named members) a (hkind.members members hj) hread
  | array items => exact hfields (.positional items) a (hkind.items items hj) hread
  | _ => cases hread

/-! ### Values of any kind -/

def Yields (read : Json → Option α) (property : α → Prop) : Prop :=
  ∀ j a, read j = some a → property a

def FieldReader.Yields (reader : FieldReader α) (property : α → Prop) : Prop :=
  ∀ fields a rest, reader fields = some (a, rest) → property a

theorem hereditary_any : Hereditary fun _ => True :=
  ⟨fun _ _ _ _ => trivial, fun _ _ _ _ => trivial⟩

theorem Fields.all_any (fields : Fields) : fields.All fun _ => True := by
  cases fields <;> exact fun _ _ => trivial

theorem yieldsFrom_any_iff {read : Json → Option α} {property : α → Prop} :
    YieldsFrom (fun _ => True) read property ↔ Yields read property :=
  ⟨fun h j a => h j a trivial, fun h j a _ => h j a⟩

theorem FieldReader.yieldsFrom_any_iff {reader : FieldReader α} {property : α → Prop} :
    reader.YieldsFrom (fun _ => True) property ↔ reader.Yields property := by
  constructor
  · intro h fields a rest hread
    exact (h fields a rest fields.all_any hread).1
  · intro h fields a rest _ hread
    exact ⟨h fields a rest hread, rest.all_any⟩

theorem yields_nat (limit : Nat) : Yields (nat? limit) fun n => n ≤ limit := by
  intro j n h
  unfold nat? at h
  split at h
  · split at h
    · rename_i hrange
      simp only [Bool.and_eq_true, decide_eq_true_eq] at hrange
      cases h
      omega
    · cases h
  · cases h

theorem yields_list {read : Json → Option α} {property : α → Prop} (h : Yields read property) :
    Yields (list? read) fun items => ∀ item ∈ items, property item := by
  rw [← yieldsFrom_any_iff] at h ⊢
  exact yieldsFrom_list hereditary_any h

theorem yields_option {read : Json → Option α} {property : α → Prop} (h : Yields read property) :
    Yields (option? read) fun found => ∀ a, found = some a → property a := by
  rw [← yieldsFrom_any_iff] at h ⊢
  exact yieldsFrom_option h

theorem yields_nameMap {read : Json → Option α} {property : α → Prop}
    (h : Yields read property) :
    Yields (nameMap? read) fun map => ∀ entry ∈ map.entries, property entry.2 := by
  rw [← yieldsFrom_any_iff] at h ⊢
  exact yieldsFrom_nameMap hereditary_any h

theorem yields_required {read : Json → Option α} {property : α → Prop} (name : String)
    (h : Yields read property) : (required name read).Yields property := by
  rw [← yieldsFrom_any_iff] at h
  exact FieldReader.yieldsFrom_any_iff.mp (yieldsFrom_required name h)

theorem yields_defaulted {read : Json → Option α} {property : α → Prop} {fallback : α}
    (name : String) (h : Yields read property) (hfallback : property fallback) :
    (defaulted name read fallback).Yields property := by
  rw [← yieldsFrom_any_iff] at h
  exact FieldReader.yieldsFrom_any_iff.mp (yieldsFrom_defaulted name h hfallback)

theorem yields_bind {reader : FieldReader α} {next : α → FieldReader β} {known : α → Prop}
    {property : β → Prop} (hreader : reader.Yields known)
    (hnext : ∀ a, known a → (next a).Yields property) : (reader >>= next).Yields property := by
  simp only [← FieldReader.yieldsFrom_any_iff] at hreader hnext ⊢
  exact yieldsFrom_bind hreader hnext

/-- A field of which nothing need be known. -/
theorem yields_any (reader : FieldReader α) : reader.Yields fun _ => True :=
  fun _ _ _ _ => trivial

theorem yields_pure {a : α} {property : α → Prop} (h : property a) :
    (pure a : FieldReader α).Yields property :=
  FieldReader.yieldsFrom_any_iff.mp (yieldsFrom_pure h)

theorem yields_record {reader : FieldReader α} {property : α → Prop}
    (h : reader.Yields property) : Yields (record? reader) property := by
  rw [← FieldReader.yieldsFrom_any_iff] at h
  exact yieldsFrom_any_iff.mp (yieldsFrom_record hereditary_any h)

end Json

end ScanFlow
