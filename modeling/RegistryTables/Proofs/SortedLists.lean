import RegistryTables.Sorting

/-
  What is left of a sorted list when of equal keys only the first is kept.

  What is proved:
    1. `mem_map_keepFirst`, `find?_keepFirst` — no key is lost, and of every key the first
       element is kept.
    2. `pairwise_lt_sortOn`, `pairwise_lt_keepFirst` — a sorted list of different keys is
       strictly ascending, and so is what is left of an ascending list, although only
       neighbours are compared.
    3. `find?_eq_some_iff_least` — the first element with a property in a strictly
       ascending list is the one with the least key.
    4. `mem_distinct`, `pairwise_lt_distinct` — the ascending list of the different
       elements of a list has exactly its elements, each once.
-/
namespace RegistryTables

section
variable {α κ : Type} {key : α → κ}

/-- Strictly ascending keys differ from each other. -/
theorem nodup_map_of_pairwise_lt [LT κ] [Std.Irrefl (α := κ) (· < ·)] {xs : List α}
    (h : xs.Pairwise (fun a b => key a < key b)) : (xs.map key).Nodup := by
  rw [List.Nodup, List.pairwise_map]
  exact h.imp (fun hlt => Std.ne_of_lt hlt)

section
variable [LE κ] [LT κ] [Std.IsLinearOrder κ] [Std.LawfulOrderLT κ]

theorem pairwise_lt_sortOn [DecidableLE κ] {xs : List α} (h : (xs.map key).Nodup) :
    (sortOn key xs).Pairwise (fun a b => key a < key b) := by
  have hnodup : ((sortOn key xs).map key).Nodup := ((sortOn_perm key xs).map key).nodup_iff.2 h
  rw [List.Nodup, List.pairwise_map] at hnodup
  exact (pairwise_sortOn key xs).imp₂ (fun _ _ => Std.lt_of_le_of_ne) hnodup

theorem find?_eq_some_iff_least {p : α → Bool} {x : α} : ∀ {xs : List α},
    xs.Pairwise (fun a b => key a < key b) →
    (xs.find? p = some x ↔ x ∈ xs ∧ p x = true ∧ ∀ y ∈ xs, p y = true → key x ≤ key y)
  | [], _ => by simp
  | z :: zs, h => by
    obtain ⟨hz, hzs⟩ := List.pairwise_cons.1 h
    cases hp : p z with
    | true =>
      rw [List.find?_cons_of_pos hp, Option.some.injEq]
      constructor
      · rintro rfl
        refine ⟨List.mem_cons_self, hp, ?_⟩
        intro y hy _
        rcases List.mem_cons.1 hy with rfl | hy
        · exact Std.le_refl _
        · exact Std.le_of_lt (hz y hy)
      · rintro ⟨hx, -, hle⟩
        rcases List.mem_cons.1 hx with rfl | hx
        · rfl
        · exact absurd (hle z List.mem_cons_self hp) (Std.not_le.2 (hz x hx))
    | false =>
      -- The first element does not count, so what is said of the list is said of its rest.
      have hrest : ∀ y, p y = true → (y ∈ z :: zs ↔ y ∈ zs) := by
        intro y hy
        rw [List.mem_cons, or_iff_right]
        rintro rfl
        rw [hp] at hy
        cases hy
      rw [List.find?_cons_of_neg (by simp [hp]), find?_eq_some_iff_least hzs]
      constructor
      · rintro ⟨hx, hpx, hle⟩
        exact ⟨(hrest x hpx).2 hx, hpx, fun y hy hpy => hle y ((hrest y hpy).1 hy) hpy⟩
      · rintro ⟨hx, hpx, hle⟩
        exact ⟨(hrest x hpx).1 hx, hpx, fun y hy hpy => hle y ((hrest y hpy).2 hy) hpy⟩

end

variable [DecidableEq κ]

/-- Only elements with the key of an element kept before them are dropped. -/
theorem mem_map_keepFirstAfter : ∀ (xs : List α) (k y : κ),
    y = k ∨ y ∈ (keepFirstAfter key k xs).map key ↔ y = k ∨ y ∈ xs.map key
  | [], _, _ => Iff.rfl
  | x :: rest, k, y => by
    simp only [keepFirstAfter]
    by_cases hx : key x = k
    · rw [if_pos hx, mem_map_keepFirstAfter rest k y, List.map_cons, List.mem_cons, hx, ← or_assoc,
        or_self]
    · rw [if_neg hx, List.map_cons, List.mem_cons, mem_map_keepFirstAfter rest (key x) y,
        List.map_cons, List.mem_cons]

theorem mem_map_keepFirst (key : α → κ) (xs : List α) (y : κ) :
    y ∈ (keepFirst key xs).map key ↔ y ∈ xs.map key := by
  cases xs with
  | nil => rfl
  | cons x rest =>
    rw [keepFirst, List.map_cons, List.mem_cons, mem_map_keepFirstAfter, List.map_cons,
      List.mem_cons]

/-- What is dropped behind an element of a key has that key, so no other loses its first. -/
theorem find?_keepFirstAfter : ∀ (xs : List α) {k k' : κ}, k' ≠ k →
    (keepFirstAfter key k xs).find? (fun x => key x = k') = xs.find? (fun x => key x = k')
  | [], _, _, _ => rfl
  | x :: rest, k, k', hne => by
    simp only [keepFirstAfter]
    by_cases hx : key x = k
    · have hxk : key x ≠ k' := fun h => hne (h.symm.trans hx)
      rw [if_pos hx, find?_keepFirstAfter rest hne, List.find?_cons_of_neg (by simpa using hxk)]
    · rw [if_neg hx]
      by_cases hxk : key x = k'
      · rw [List.find?_cons_of_pos (by simpa using hxk),
          List.find?_cons_of_pos (by simpa using hxk)]
      · rw [List.find?_cons_of_neg (by simpa using hxk),
          List.find?_cons_of_neg (by simpa using hxk), find?_keepFirstAfter rest (Ne.symm hxk)]

/-- The first element of a list is kept, and then it is as if it were the one kept before. -/
theorem find?_keepFirst (key : α → κ) (k : κ) (xs : List α) :
    (keepFirst key xs).find? (fun x => key x = k) = xs.find? (fun x => key x = k) := by
  cases xs with
  | nil => rfl
  | cons x rest =>
    rw [keepFirst]
    by_cases hxk : key x = k
    · rw [List.find?_cons_of_pos (by simpa using hxk), List.find?_cons_of_pos (by simpa using hxk)]
    · rw [List.find?_cons_of_neg (by simpa using hxk), List.find?_cons_of_neg (by simpa using hxk),
        find?_keepFirstAfter rest (Ne.symm hxk)]

variable [LE κ] [LT κ] [Std.IsLinearOrder κ] [Std.LawfulOrderLT κ]

/-- Where no key lies below `k`, all keys that are kept lie above it. -/
theorem pairwise_lt_keepFirstAfter : ∀ (xs : List α) (k : κ), (∀ x ∈ xs, k ≤ key x) →
    xs.Pairwise (fun a b => key a ≤ key b) →
    (∀ x ∈ keepFirstAfter key k xs, k < key x) ∧
      (keepFirstAfter key k xs).Pairwise (fun a b => key a < key b)
  | [], _, _, _ => ⟨fun _ h => absurd h List.not_mem_nil, List.Pairwise.nil⟩
  | x :: rest, k, hk, hs => by
    obtain ⟨hx, hrest⟩ := List.pairwise_cons.1 hs
    simp only [keepFirstAfter]
    by_cases hxk : key x = k
    · -- `x` is dropped, and `k` stays the bound for the rest.
      rw [if_pos hxk]
      exact pairwise_lt_keepFirstAfter rest k (fun y hy => hk y (List.mem_cons_of_mem _ hy)) hrest
    · obtain ⟨habove, hasc⟩ := pairwise_lt_keepFirstAfter rest (key x) hx hrest
      -- `x` is kept, so its key is the bound for the rest, and lies above `k` itself.
      have hlt : k < key x := Std.lt_of_le_of_ne (hk x List.mem_cons_self) (Ne.symm hxk)
      rw [if_neg hxk]
      refine ⟨?_, List.pairwise_cons.2 ⟨habove, hasc⟩⟩
      intro y hy
      rcases List.mem_cons.1 hy with rfl | hy
      · exact hlt
      · exact Std.lt_trans hlt (habove y hy)

theorem pairwise_lt_keepFirst {xs : List α} (h : xs.Pairwise (fun a b => key a ≤ key b)) :
    (keepFirst key xs).Pairwise (fun a b => key a < key b) := by
  cases xs with
  | nil => exact List.Pairwise.nil
  | cons x rest =>
    obtain ⟨hx, hrest⟩ := List.pairwise_cons.1 h
    exact List.pairwise_cons.2 (pairwise_lt_keepFirstAfter rest (key x) hx hrest)

end

section
variable {α : Type} [LE α] [DecidableLE α] [DecidableEq α]

theorem mem_distinct {xs : List α} {x : α} : x ∈ distinct xs ↔ x ∈ xs := by
  have h := mem_map_keepFirst id (sortOn id xs) x
  rw [List.map_id, List.map_id, mem_sortOn] at h
  exact h

theorem pairwise_lt_distinct [LT α] [Std.IsLinearOrder α] [Std.LawfulOrderLT α] (xs : List α) :
    (distinct xs).Pairwise (· < ·) := by
  have h := pairwise_lt_keepFirst (pairwise_sortOn id xs)
  exact h

end

end RegistryTables
