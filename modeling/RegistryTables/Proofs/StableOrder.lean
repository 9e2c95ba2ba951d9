import RegistryTables.Proofs.SortedLists
import Mathlib.Data.List.Sort

/-
  What sorting keeps of the order in which a list comes.

  Sorting is stable, so what it keeps is the order of the elements of each key, and
  nothing else: lists that agree on that sort to one list. Where no two elements share a
  key, the order in which the list comes is lost altogether.

  What is proved:
    1. `ofKey_sortOn` — the elements of a key keep their order.
    2. `sortOn_eq_of_ofKey_eq` — a sorted list is settled by the elements of each key.
    3. `sortOn_eq_of_perm`, `sortOn_append_eq_of_perm` — elements of different keys may
       come in any order, also behind others.
    4. `distinct_eq_of_mem_iff` — lists of the same elements have the same ascending
       list of different elements.
-/
namespace RegistryTables

section
variable {α κ : Type} [DecidableEq κ] {key : α → κ} {xs ys : List α}

/-- The elements of one key, in the order in which they come. -/
def ofKey (key : α → κ) (k : κ) (xs : List α) : List α := xs.filter (fun x => key x = k)

theorem mem_ofKey {k : κ} {x : α} : x ∈ ofKey key k xs ↔ x ∈ xs ∧ key x = k := by
  rw [ofKey, List.mem_filter, decide_eq_true_eq]

theorem ofKey_append (key : α → κ) (k : κ) (xs ys : List α) :
    ofKey key k (xs ++ ys) = ofKey key k xs ++ ofKey key k ys :=
  List.filter_append xs ys

theorem ofKey_cons_self (key : α → κ) (x : α) (xs : List α) :
    ofKey key (key x) (x :: xs) = x :: ofKey key (key x) xs :=
  List.filter_cons_of_pos (decide_eq_true rfl)

theorem ofKey_cons_of_ne {k : κ} {x : α} (h : key x ≠ k) (xs : List α) :
    ofKey key k (x :: xs) = ofKey key k xs :=
  List.filter_cons_of_neg (by simpa using h)

/-- Where no two elements share a key, no key has two elements whose order could matter. -/
theorem ofKey_eq_of_perm (h : xs.Perm ys) (hnodup : (xs.map key).Nodup) (k : κ) :
    ofKey key k xs = ofKey key k ys := by
  have hone : ∀ zs : List α, (zs.map key).Nodup → (ofKey key k zs).Pairwise (fun _ _ => False) := by
    intro zs hzs
    rw [List.Nodup, List.pairwise_map] at hzs
    refine (hzs.filter (fun x => decide (key x = k))).imp_of_mem ?_
    intro a b ha hb hne
    exact hne ((mem_ofKey.1 ha).2.trans (mem_ofKey.1 hb).2.symm)
  have hys : (ys.map key).Nodup := (h.map key).nodup_iff.1 hnodup
  exact List.Perm.eq_of_pairwise (fun _ _ _ _ hf => hf.elim) (hone xs hnodup) (hone ys hys)
    (h.filter _)

/-- A key that no other lies below is below any key that the list has. -/
theorem key_le_of_ofKey_eq [LE κ] [Std.IsPreorder κ] {a b : α} {as bs : List α}
    (hfirst : ∀ c ∈ as, key a ≤ key c)
    (h : ofKey key (key b) (a :: as) = ofKey key (key b) (b :: bs)) : key a ≤ key b := by
  have hb : b ∈ ofKey key (key b) (a :: as) := by
    rw [h]
    exact mem_ofKey.2 ⟨List.mem_cons_self, rfl⟩
  rcases List.mem_cons.1 (mem_ofKey.1 hb).1 with rfl | hb
  · exact Std.le_refl _
  · exact hfirst b hb

/-- Ascending lists with the same elements of each key, in the same order, are equal. -/
theorem eq_of_pairwise_le_of_ofKey_eq [LE κ] [Std.IsPartialOrder κ] : ∀ {xs ys : List α},
    xs.Pairwise (fun a b => key a ≤ key b) → ys.Pairwise (fun a b => key a ≤ key b) →
    (∀ k, ofKey key k xs = ofKey key k ys) → xs = ys
  | [], [], _, _, _ => rfl
  | [], y :: ys, _, _, h => by
    have hy := h (key y)
    rw [ofKey_cons_self] at hy
    cases hy
  | x :: xs, [], _, _, h => by
    have hx := h (key x)
    rw [ofKey_cons_self] at hx
    cases hx
  | x :: xs, y :: ys, hxs, hys, h => by
    obtain ⟨hxfirst, hxrest⟩ := List.pairwise_cons.1 hxs
    obtain ⟨hyfirst, hyrest⟩ := List.pairwise_cons.1 hys
    -- Both heads have the least key, which has the same first element in both lists.
    have hkey : key x = key y :=
      Std.le_antisymm (key_le_of_ofKey_eq hxfirst (h (key y)))
        (key_le_of_ofKey_eq hyfirst (h (key x)).symm)
    have hheads := h (key x)
    rw [ofKey_cons_self, hkey, ofKey_cons_self] at hheads
    obtain ⟨rfl, -⟩ := List.cons.inj hheads
    congr 1
    apply eq_of_pairwise_le_of_ofKey_eq hxrest hyrest
    intro k
    have hk := h k
    by_cases hxk : key x = k
    · subst hxk
      rw [ofKey_cons_self, ofKey_cons_self] at hk
      exact (List.cons.inj hk).2
    · rwa [ofKey_cons_of_ne hxk, ofKey_cons_of_ne hxk] at hk

section
variable [LE κ] [DecidableLE κ]

omit [DecidableEq κ] in
theorem sortOn_of_pairwise_le (h : xs.Pairwise (fun a b => key a ≤ key b)) : sortOn key xs = xs :=
  List.mergeSort_of_pairwise (h.imp decide_eq_true)

/-- Sorting keeps the order of the elements of each key. -/
theorem ofKey_sortOn [Std.IsLinearPreorder κ] (key : α → κ) (k : κ) (xs : List α) :
    ofKey key k (sortOn key xs) = ofKey key k xs := by
  have hsorted : (ofKey key k xs).Pairwise (fun a b => decide (key a ≤ key b) = true) := by
    apply List.pairwise_of_forall_mem_list
    intro a ha b hb
    rw [(mem_ofKey.1 ha).2, (mem_ofKey.1 hb).2]
    exact decide_eq_true (Std.le_refl k)
  -- Elements in ascending order already are not moved past each other.
  have hsub : (ofKey key k xs).Sublist (sortOn key xs) :=
    List.sublist_mergeSort (keyLe_trans key) (keyLe_total key) hsorted List.filter_sublist
  have hself : (ofKey key k xs).Sublist (ofKey key k (sortOn key xs)) := by
    have hfilter := hsub.filter (fun x => decide (key x = k))
    rwa [List.filter_eq_self.2 (fun x hx => decide_eq_true (mem_ofKey.1 hx).2)] at hfilter
  exact (hself.eq_of_length ((sortOn_perm key xs).symm.filter _).length_eq).symm

/-- The first element of a key is the same before sorting and after. -/
theorem find?_sortOn [Std.IsLinearPreorder κ] (key : α → κ) (k : κ) (xs : List α) :
    (sortOn key xs).find? (fun x => key x = k) = xs.find? (fun x => key x = k) := by
  have hfilter := congrArg List.head? (ofKey_sortOn key k xs)
  rwa [ofKey, ofKey, List.head?_filter, List.head?_filter] at hfilter

variable [Std.IsLinearOrder κ]

theorem sortOn_eq_of_ofKey_eq (h : ∀ k, ofKey key k xs = ofKey key k ys) :
    sortOn key xs = sortOn key ys := by
  apply eq_of_pairwise_le_of_ofKey_eq (pairwise_sortOn key xs) (pairwise_sortOn key ys)
  intro k
  rw [ofKey_sortOn, ofKey_sortOn, h k]

theorem sortOn_eq_of_perm (h : xs.Perm ys) (hnodup : (xs.map key).Nodup) :
    sortOn key xs = sortOn key ys :=
  sortOn_eq_of_ofKey_eq (ofKey_eq_of_perm h hnodup)

/-- What comes first stays in front of what comes later, in whatever order that comes. -/
theorem sortOn_append_eq_of_perm (front : List α) (h : xs.Perm ys) (hnodup : (xs.map key).Nodup) :
    sortOn key (front ++ xs) = sortOn key (front ++ ys) := by
  apply sortOn_eq_of_ofKey_eq
  intro k
  rw [ofKey_append, ofKey_append, ofKey_eq_of_perm h hnodup]

end

end

theorem distinct_eq_of_mem_iff {α : Type} [LE α] [DecidableLE α] [DecidableEq α] [LT α]
    [Std.IsLinearOrder α] [Std.LawfulOrderLT α] {xs ys : List α} (h : ∀ x, x ∈ xs ↔ x ∈ ys) :
    distinct xs = distinct ys := by
  apply List.Pairwise.eq_of_mem_iff (pairwise_lt_distinct xs) (pairwise_lt_distinct ys)
  intro x
  rw [mem_distinct, mem_distinct, h x]

end RegistryTables
