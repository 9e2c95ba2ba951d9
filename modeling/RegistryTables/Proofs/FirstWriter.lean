import RegistryTables.Index
import Mathlib.Data.Finset.Card

/-
  Indexes in which the first writer of a key stays.

  An index that is only ever added to by `insertIfNew` is settled by the values that
  were offered to it, in order, whether it took them or not: a key leads to the first
  value offered under it. `FirstOf` says so of an index and a list of offers.

  What is proved:
    1. `FirstOf.insertIfNew` — one more offer keeps it.
    2. `FirstOf.mem_keys`, `FirstOf.size_eq` — the keys of the index are the keys of
       the offers, and its size is the number of different ones.
    3. `FirstOf.get?_later`, `FirstOf.get?_before` — what a key leads to once, it leads to
       from then on; what it leads to in the end, it has led to since the first time that
       was offered.
-/
namespace RegistryTables.Index

variable {κ α : Type} [DecidableEq κ] {m : Index κ α} {key : α → κ} {offers : List α}

/-- Every key leads to the first of the offers that have it, and to nothing if none has. -/
def FirstOf (m : Index κ α) (key : α → κ) (offers : List α) : Prop :=
  ∀ k, m.get? k = offers.find? (fun x => key x = k)

theorem find?_key_isSome (key : α → κ) (offers : List α) (k : κ) :
    (offers.find? (fun x => key x = k)).isSome = true ↔ k ∈ offers.map key := by
  rw [List.find?_isSome, List.mem_map]
  simp only [decide_eq_true_eq]

theorem find?_key_eq_none (key : α → κ) (offers : List α) (k : κ) :
    offers.find? (fun x => key x = k) = none ↔ k ∉ offers.map key := by
  rw [← find?_key_isSome, Bool.not_eq_true, Option.isSome_eq_false_iff, Option.isNone_iff_eq_none]

/-- Where no two offers share a key, every offer is found under its own. -/
theorem find?_key_eq_some_iff {offers : List α} (h : (offers.map key).Nodup) {x : α} :
    offers.find? (fun y => key y = key x) = some x ↔ x ∈ offers := by
  constructor
  · exact List.mem_of_find?_eq_some
  · intro hx
    cases hf : offers.find? (fun y => key y = key x) with
    | none => exact absurd (List.find?_eq_none.1 hf x hx) (by simp)
    | some y =>
      have hy : key y = key x := by simpa using List.find?_some hf
      rw [List.inj_on_of_nodup_map h (List.mem_of_find?_eq_some hf) hx hy]

theorem firstOf_empty (key : α → κ) : (empty : Index κ α).FirstOf key [] := fun _ => rfl

theorem FirstOf.mem_keys (h : m.FirstOf key offers) {k : κ} :
    k ∈ m.keys ↔ k ∈ offers.map key := by
  rw [mem_keys_iff, h k, ← Option.isSome_iff_exists, find?_key_isSome]

theorem FirstOf.contains_iff (h : m.FirstOf key offers) {k : κ} :
    m.contains k = true ↔ k ∈ offers.map key := by
  rw [Index.contains_iff, h.mem_keys]

/-- An offer is taken exactly if its key is new, and the first of each key stays. -/
theorem FirstOf.insertIfNew (h : m.FirstOf key offers) (x : α) :
    (m.insertIfNew (key x) x).FirstOf key (offers ++ [x]) := by
  intro k
  rw [get?_insertIfNew, List.find?_append, ← h k]
  by_cases hk : k = key x
  · -- The offer counts for its own key only if no earlier one has it.
    subst hk
    cases hg : m.get? (key x) with
    | some first =>
      have hm : key x ∈ m.keys := mem_keys_iff.2 ⟨first, hg⟩
      simp [hm]
    | none =>
      have hm : key x ∉ m.keys := get?_eq_none_iff.1 hg
      simp [hm]
  · have hx : [x].find? (fun y => decide (key y = k)) = none := by simp [Ne.symm hk]
    rw [if_neg (fun hc => hk hc.1), hx, Option.or_none]

theorem FirstOf.get?_some (h : m.FirstOf key offers) {k : κ} {x : α} (hx : m.get? k = some x) :
    x ∈ offers ∧ key x = k := by
  rw [h k] at hx
  exact ⟨List.mem_of_find?_eq_some hx, by simpa using List.find?_some hx⟩

/-- What a key leads to, it leads to after more offers. -/
theorem FirstOf.get?_later {n : Index κ α} {later : List α} (hm : m.FirstOf key offers)
    (hn : n.FirstOf key later) (hpre : offers <+: later) {k : κ} {x : α}
    (hget : m.get? k = some x) : n.get? k = some x := by
  rw [hn k]
  exact hpre.find?_eq_some ((hm k).symm.trans hget)

/-- What a key leads to after more offers, it leads to before them, if it was offered by then. -/
theorem FirstOf.get?_before {n : Index κ α} {later : List α} (hm : m.FirstOf key offers)
    (hn : n.FirstOf key later) (hpre : offers <+: later) {k : κ} {x : α} (hx : x ∈ offers)
    (hget : n.get? k = some x) : m.get? k = some x := by
  have hkey := (hn.get?_some hget).2
  have hk : k ∈ m.keys := hm.mem_keys.2 (List.mem_map.2 ⟨x, hx, hkey⟩)
  obtain ⟨first, hfirst⟩ := mem_keys_iff.1 hk
  rw [hfirst, ← hm.get?_later hn hpre hfirst, hget]

theorem FirstOf.size_eq (h : m.FirstOf key offers) :
    m.size = (offers.map key).toFinset.card := by
  have hkeys : m.keys.toFinset = (offers.map key).toFinset := by
    ext k
    rw [List.mem_toFinset, List.mem_toFinset, h.mem_keys]
  -- The keys of an index are different, so their number is that of the set of them.
  calc m.size = m.keys.length := by rw [size, keys, List.length_map]
    _ = m.keys.toFinset.card := (List.toFinset_card_of_nodup m.keys_nodup).symm
    _ = (offers.map key).toFinset.card := by rw [hkeys]

end RegistryTables.Index
