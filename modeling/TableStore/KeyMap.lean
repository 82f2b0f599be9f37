/-!
# Finite maps

`KeyMap κ α` gives at most one value to each key and keeps its entries in the order in which
they were last written.  The file system, the registrations of nodes, the tables of a coordinator
and its cache are all kept in such maps.

There are three groups.

* The operations `get?`, `insert` and `erase`, with `size`, `keys`, `map` and `filter` beside
  them.
* What each operation does to `get?`.  Proofs about the users of a map go through these lemmas
  and do not look at the list of entries.
* Writing a fresh key and erasing it again gives the map back.
-/

namespace TableStore

/-- A finite map.  No key has two entries; the entry written last stands last. -/
structure KeyMap (κ α : Type) where
  /-- The entries, oldest first. -/
  entries : List (κ × α)
  /-- Every key has one entry at most. -/
  nodup : (entries.map Prod.fst).Nodup

namespace KeyMap

variable {κ α β : Type}

/-! ## Operations -/

/-- The map without entries. -/
def empty : KeyMap κ α := ⟨[], List.nodup_nil⟩

instance : EmptyCollection (KeyMap κ α) := ⟨empty⟩
instance : Inhabited (KeyMap κ α) := ⟨empty⟩

/-- The number of keys. -/
def size (m : KeyMap κ α) : Nat := m.entries.length

/-- The keys, in the order of their entries. -/
def keys (m : KeyMap κ α) : List κ := m.entries.map Prod.fst

/-- The values, in the order of their entries. -/
def values (m : KeyMap κ α) : List α := m.entries.map Prod.snd

/-- The same keys with `f` applied to every value. -/
def map (f : α → β) (m : KeyMap κ α) : KeyMap κ β where
  entries := m.entries.map fun e => (e.1, f e.2)
  nodup := by simpa [Function.comp_def] using m.nodup

/-- The entries whose keys satisfy `p`. -/
def filter (p : κ → Bool) (m : KeyMap κ α) : KeyMap κ α where
  entries := m.entries.filter fun e => p e.1
  nodup := m.nodup.sublist (List.filter_sublist.map _)

variable [DecidableEq κ]

/-- The value of `k`, if it has one. -/
def get? (m : KeyMap κ α) (k : κ) : Option α :=
  (m.entries.find? fun e => e.1 = k).map Prod.snd

/-- Whether `k` has a value. -/
def contains (m : KeyMap κ α) (k : κ) : Bool := (m.get? k).isSome

/-- The map without `k`. -/
def erase (m : KeyMap κ α) (k : κ) : KeyMap κ α := m.filter fun k' => k' ≠ k

/-- The map in which `k` has the value `v`, and which is otherwise `m`. -/
def insert (m : KeyMap κ α) (k : κ) (v : α) : KeyMap κ α where
  entries := (m.erase k).entries ++ [(k, v)]
  nodup := by
    rw [List.map_append, List.nodup_append]
    refine ⟨(m.erase k).nodup, by simp, ?_⟩
    rintro a ha b hb rfl
    simp only [List.map_cons, List.map_nil, List.mem_singleton] at hb
    subst hb
    simp [erase, filter] at ha

/-! ## What the operations do to look-up -/

@[simp] theorem get?_empty (k : κ) : (∅ : KeyMap κ α).get? k = none := rfl

theorem get?_erase_self (m : KeyMap κ α) (k : κ) : (m.erase k).get? k = none := by
  simp [get?, erase, filter, List.find?_eq_none]

theorem get?_erase_of_ne (m : KeyMap κ α) {k k' : κ} (h : k' ≠ k) :
    (m.erase k).get? k' = m.get? k' := by
  simp only [get?, erase, filter, List.find?_filter]
  congr 2
  funext e
  by_cases he : e.1 = k' <;> simp [he, h]

/-- Look-up after an erasure. -/
@[simp] theorem get?_erase (m : KeyMap κ α) (k k' : κ) :
    (m.erase k).get? k' = if k' = k then none else m.get? k' := by
  split
  · next h => rw [h, get?_erase_self]
  · next h => exact get?_erase_of_ne m h

/-- Look-up after a write. -/
@[simp] theorem get?_insert (m : KeyMap κ α) (k k' : κ) (v : α) :
    (m.insert k v).get? k' = if k' = k then some v else m.get? k' := by
  have split_find : (m.insert k v).get? k' =
      ((m.erase k).get? k').or (if k = k' then some v else none) := by
    simp only [get?, insert, List.find?_append, Option.map_or]
    by_cases h : k = k' <;> simp [h]
  rw [split_find]
  by_cases h : k' = k
  · simp [h]
  · simp [h, Ne.symm h]

theorem get?_eq_none_iff {m : KeyMap κ α} {k : κ} : m.get? k = none ↔ k ∉ m.keys := by
  simp only [get?, keys, Option.map_eq_none_iff, List.find?_eq_none, List.mem_map, not_exists,
    not_and, decide_eq_true_eq]

@[simp] theorem get?_map (f : α → β) (m : KeyMap κ α) (k : κ) :
    (m.map f).get? k = (m.get? k).map f := by
  simp [get?, map, List.find?_map, Function.comp_def]

/-! ## A fresh key -/

theorem erase_of_get?_eq_none {m : KeyMap κ α} {k : κ} (h : m.get? k = none) :
    m.erase k = m := by
  have fresh := get?_eq_none_iff.1 h
  obtain ⟨entries, nodup⟩ := m
  simp only [erase, filter, KeyMap.mk.injEq, List.filter_eq_self]
  intro e he
  simp only [keys, List.mem_map, not_exists, not_and] at fresh
  simpa using fun hk => fresh e he hk

/-- Writing a key that had no value and erasing it again changes nothing. -/
theorem erase_insert_of_get?_eq_none {m : KeyMap κ α} {k : κ} (v : α) (h : m.get? k = none) :
    (m.insert k v).erase k = m := by
  have same := erase_of_get?_eq_none h
  obtain ⟨entries, nodup⟩ := m
  simp only [erase, filter, insert, KeyMap.mk.injEq, List.filter_append, List.filter_filter,
    Bool.and_self] at same ⊢
  rw [same]
  simp

end KeyMap

end TableStore
