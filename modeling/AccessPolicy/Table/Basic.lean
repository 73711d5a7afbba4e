import AccessPolicy.Table.Entries

/-!
# Tables

A table maps names to values. Its entries are in key order by construction, so two tables with the
same look-ups are equal (`Table.ext_get?`).
-/

namespace AccessPolicy

/-- A finite map from names, its entries in key order. -/
structure Table (α : Type) where
  entries : Entries α
  sorted : entries.Sorted

namespace Table

variable {α : Type}

/-- The table without entries. -/
def empty : Table α :=
  ⟨[], Entries.sorted_nil⟩

instance : EmptyCollection (Table α) :=
  ⟨empty⟩

instance : Inhabited (Table α) :=
  ⟨empty⟩

/-- The value under a name. -/
def get? (t : Table α) (k : String) : Option α :=
  t.entries.get? k

/-- The table with `v` under the name `k`, in place of what was there. -/
def insert (t : Table α) (k : String) (v : α) : Table α :=
  ⟨t.entries.insert k v, t.sorted.insert k v⟩

/-- The table of a list of pairs; of pairs with one name the last one counts. -/
def ofPairs (pairs : List (String × α)) : Table α :=
  ⟨Entries.ofPairs pairs, .ofPairs pairs⟩

/-- The names, in order. -/
def keys (t : Table α) : List String :=
  t.entries.keys

/-- Whether a name has a value. -/
def contains (t : Table α) (k : String) : Bool :=
  (t.get? k).isSome

/-- The number of entries. -/
def size (t : Table α) : Nat :=
  t.entries.length

/-- Whether there are no entries. -/
def isEmpty (t : Table α) : Bool :=
  t.entries.isEmpty

/-- The empty table holds nothing. -/
@[simp]
theorem get?_empty (k : String) : (∅ : Table α).get? k = none := rfl

/-- An insertion is seen under its own key and nowhere else. -/
theorem get?_insert (t : Table α) (k k' : String) (v : α) :
    (t.insert k v).get? k' = if k = k' then some v else t.get? k' :=
  Entries.get?_insert t.entries k k' v

/-- What was inserted last is found. -/
theorem get?_insert_self (t : Table α) (k : String) (v : α) : (t.insert k v).get? k = some v := by
  simp [get?_insert]

/-- The entries listed are the ones found by look-up. -/
theorem mem_entries_iff (t : Table α) (k : String) (v : α) :
    (k, v) ∈ t.entries ↔ t.get? k = some v :=
  ⟨fun h => Entries.get?_of_mem t.sorted h, Entries.mem_of_get?⟩

/-- The keys listed are the ones under which something is found. -/
theorem mem_keys_iff (t : Table α) (k : String) : k ∈ t.keys ↔ ∃ v, t.get? k = some v := by
  constructor
  · intro h
    obtain ⟨⟨k, v⟩, he, rfl⟩ := List.mem_map.1 h
    exact ⟨v, (t.mem_entries_iff k v).1 he⟩
  · rintro ⟨v, hv⟩
    exact List.mem_map.2 ⟨(k, v), (t.mem_entries_iff k v).2 hv, rfl⟩

/-- Nothing is found under a key that is not listed. -/
theorem get?_eq_none_of_not_mem {t : Table α} {k : String} (h : k ∉ t.keys) : t.get? k = none :=
  Option.eq_none_iff_forall_ne_some.2 fun v hv => h ((t.mem_keys_iff k).2 ⟨v, hv⟩)

/-- Tables that agree on every look-up are equal. -/
theorem ext_get? {s t : Table α} (h : ∀ k, s.get? k = t.get? k) : s = t := by
  obtain ⟨es, hes⟩ := s
  obtain ⟨fs, hfs⟩ := t
  simp only [mk.injEq]
  exact Entries.ext_of_get? hes hfs h

end Table

end AccessPolicy
