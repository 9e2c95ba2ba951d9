import RegistryTables.Sorting

/-
  An index: entries with pairwise different keys, in order of arrival.

  It is the one container of the library. A data source is an index from identifiers
  to numbers, and a registry holds one index for each of its two keyspaces.
  `insertIfNew` lets the first entry of a key stand, `insert` the last.

  What is proved: what every operation does to a lookup (`get?_insertIfNew`,
  `get?_insert`) and to the set of keys (`mem_keys_insertIfNew`, `mem_keys_insert`).
-/
namespace RegistryTables

/-- Entries with pairwise different keys, in order of arrival. -/
structure Index (κ α : Type) where
  entries : List (κ × α)
  keys_nodup : (entries.map Prod.fst).Nodup

namespace Index

variable {κ α : Type}

def empty : Index κ α := ⟨[], List.nodup_nil⟩

instance : EmptyCollection (Index κ α) := ⟨empty⟩
instance : Inhabited (Index κ α) := ⟨empty⟩

def keys (m : Index κ α) : List κ := m.entries.map Prod.fst

def values (m : Index κ α) : List α := m.entries.map Prod.snd

def size (m : Index κ α) : Nat := m.entries.length

def isEmpty (m : Index κ α) : Bool := m.entries.isEmpty

variable [DecidableEq κ]

def get? (m : Index κ α) (k : κ) : Option α :=
  (m.entries.find? (fun e => e.1 = k)).map Prod.snd

def contains (m : Index κ α) (k : κ) : Bool := decide (k ∈ m.keys)

/-- Adds an entry unless its key has one. -/
def insertIfNew (m : Index κ α) (k : κ) (v : α) : Index κ α :=
  if h : k ∈ m.keys then m
  else ⟨m.entries ++ [(k, v)], by
    rw [List.map_append, List.nodup_append]
    refine ⟨m.keys_nodup, by simp, ?_⟩
    intro a ha b hb hab
    simp only [List.map_cons, List.map_nil, List.mem_singleton] at hb
    exact h (hb ▸ hab ▸ ha)⟩

/-- Adds an entry, in place of the one its key has. -/
def insert (m : Index κ α) (k : κ) (v : α) : Index κ α :=
  ⟨m.entries.filter (fun e => e.1 ≠ k) ++ [(k, v)], by
    rw [List.map_append, List.nodup_append]
    refine ⟨m.keys_nodup.sublist (List.filter_sublist.map Prod.fst), by simp, ?_⟩
    intro a ha b hb hab
    simp only [List.map_cons, List.map_nil, List.mem_singleton] at hb
    obtain ⟨e, he, rfl⟩ := List.mem_map.1 ha
    have hne := (List.mem_filter.1 he).2
    simp only [ne_eq, decide_not, Bool.not_eq_true', decide_eq_false_iff_not] at hne
    exact hne (hab.trans hb)⟩

/-- The index of a list of entries; of the entries of one key the last counts. -/
def ofList (es : List (κ × α)) : Index κ α := es.foldl (fun m e => m.insert e.1 e.2) empty

def sorted [LE κ] [DecidableLE κ] (m : Index κ α) : List (κ × α) := sortOn Prod.fst m.entries

/-! ## Lookups -/

@[simp] theorem get?_empty (k : κ) : (empty : Index κ α).get? k = none := rfl

theorem contains_iff {m : Index κ α} {k : κ} : m.contains k = true ↔ k ∈ m.keys :=
  decide_eq_true_iff

theorem mem_keys_iff {m : Index κ α} {k : κ} : k ∈ m.keys ↔ ∃ v, m.get? k = some v := by
  simp only [keys, List.mem_map, get?, Option.map_eq_some_iff]
  constructor
  · rintro ⟨e, he, rfl⟩
    cases hf : m.entries.find? (fun x => decide (x.1 = e.1)) with
    | none => exact absurd (List.find?_eq_none.1 hf e he) (by simp)
    | some x => exact ⟨x.2, x, rfl, rfl⟩
  · rintro ⟨v, e, he, _⟩
    exact ⟨e, List.mem_of_find?_eq_some he, by simpa using List.find?_some he⟩

theorem get?_eq_none_iff {m : Index κ α} {k : κ} : m.get? k = none ↔ k ∉ m.keys := by
  rw [mem_keys_iff]
  cases m.get? k <;> simp

/-- A lookup finds exactly the entries: no key has two. -/
theorem get?_eq_some_iff {m : Index κ α} {k : κ} {v : α} :
    m.get? k = some v ↔ (k, v) ∈ m.entries := by
  obtain ⟨es, hnd⟩ := m
  simp only [get?]
  induction es with
  | nil => simp
  | cons e rest ih =>
    simp only [List.map_cons, List.nodup_cons] at hnd
    obtain ⟨a, b⟩ := e
    by_cases hak : a = k
    · subst hak
      have : (a, v) ∉ rest := fun hm => hnd.1 (List.mem_map.2 ⟨(a, v), hm, rfl⟩)
      simp [this, eq_comm]
    · simp [hak, ih hnd.2, Ne.symm hak]

/-- A lookup does not see in which order the entries are enumerated. -/
theorem get?_eq_of_perm {m n : Index κ α} (h : m.entries.Perm n.entries) (k : κ) :
    m.get? k = n.get? k := by
  ext v
  rw [get?_eq_some_iff, get?_eq_some_iff, h.mem_iff]

theorem insertIfNew_of_mem {m : Index κ α} {k : κ} (h : k ∈ m.keys) (v : α) :
    m.insertIfNew k v = m := by
  unfold insertIfNew
  rw [dif_pos h]

theorem entries_insertIfNew {m : Index κ α} {k : κ} (h : k ∉ m.keys) (v : α) :
    (m.insertIfNew k v).entries = m.entries ++ [(k, v)] := by
  unfold insertIfNew
  rw [dif_neg h]

theorem get?_insertIfNew (m : Index κ α) (k k' : κ) (v : α) :
    (m.insertIfNew k v).get? k' =
      if k' = k ∧ k ∉ m.keys then some v else m.get? k' := by
  by_cases hk : k ∈ m.keys
  · simp [insertIfNew_of_mem hk, hk]
  · have hn : m.get? k = none := get?_eq_none_iff.2 hk
    simp only [get?, entries_insertIfNew hk, List.find?_append]
    by_cases hkk : k' = k
    · subst hkk
      simp only [get?, Option.map_eq_none_iff] at hn
      simp [hk, hn]
    · simp [hkk, Ne.symm hkk]

theorem get?_insert (m : Index κ α) (k k' : κ) (v : α) :
    (m.insert k v).get? k' = if k' = k then some v else m.get? k' := by
  have hf : (m.entries.filter (fun e => e.1 ≠ k)).find? (fun e => e.1 = k') =
      if k' = k then none else m.entries.find? (fun e => e.1 = k') := by
    induction m.entries with
    | nil => simp
    | cons e rest ih =>
      by_cases hek : e.1 = k <;> by_cases hek' : e.1 = k' <;> by_cases hkk : k' = k <;>
        simp_all
  simp only [get?, insert, List.find?_append, hf]
  by_cases hkk : k' = k
  · simp [hkk]
  · simp [hkk, Ne.symm hkk]

theorem mem_keys_insertIfNew {m : Index κ α} {k k' : κ} {v : α} :
    k' ∈ (m.insertIfNew k v).keys ↔ k' = k ∨ k' ∈ m.keys := by
  by_cases hk : k ∈ m.keys
  · rw [insertIfNew_of_mem hk]
    exact ⟨Or.inr, fun h => h.elim (fun e => e ▸ hk) id⟩
  · simp only [keys, entries_insertIfNew hk, List.map_append, List.mem_append]
    simp [or_comm]

theorem mem_keys_insert {m : Index κ α} {k k' : κ} {v : α} :
    k' ∈ (m.insert k v).keys ↔ k' = k ∨ k' ∈ m.keys := by
  rw [mem_keys_iff, mem_keys_iff, get?_insert]
  by_cases h : k' = k <;> simp [h]

end Index

end RegistryTables
