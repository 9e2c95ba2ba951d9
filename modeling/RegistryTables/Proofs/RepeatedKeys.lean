import Mathlib.Data.List.Induction
import Mathlib.Data.List.Nodup

/-
  The first element of a list that repeats a key.

  A pass over a list that remembers the keys it has seen stops at the first element whose
  key an element before it has. No key was repeated up to there, so just one element
  before it has that key.

  What is proved:
    1. `exists_firstRepeat_iff`, `FirstRepeat.one_lt_count` — there is such an element
       exactly where a key is repeated, and its key is.
    2. `exists_perm_firstRepeat` — any key that is repeated is the first to be so in some
       order of the list.
    3. `FirstRepeat.least`, `FirstRepeat.eq_first` — in a list in strictly ascending order, no
       element below it repeats a key of an element below that, and the element that it
       repeats is the only one below it with its key.
    4. `FirstRepeat.key_le` — in a list that ascends by the keys themselves, its key is the
       least that has two elements.
-/
namespace RegistryTables

variable {α κ : Type} {key : α → κ} {xs : List α} {first second : α}

/-- The second of the elements is the first of the list that has the key of an element
before it, and that is the first of them. -/
def FirstRepeat (key : α → κ) (xs : List α) (first second : α) : Prop :=
  ∃ before later, xs = before ++ second :: later ∧ (before.map key).Nodup ∧
    first ∈ before ∧ key first = key second

theorem FirstRepeat.mem_first (h : FirstRepeat key xs first second) : first ∈ xs := by
  obtain ⟨before, later, rfl, -, hfirst, -⟩ := h
  exact List.mem_append_left _ hfirst

theorem FirstRepeat.mem_second (h : FirstRepeat key xs first second) : second ∈ xs := by
  obtain ⟨before, later, rfl, -, -, -⟩ := h
  exact List.mem_append_right _ List.mem_cons_self

theorem FirstRepeat.key_eq (h : FirstRepeat key xs first second) : key first = key second := by
  obtain ⟨-, -, -, -, -, hkey⟩ := h
  exact hkey

theorem FirstRepeat.one_lt_count [DecidableEq κ] (h : FirstRepeat key xs first second) :
    1 < (xs.map key).count (key second) := by
  obtain ⟨before, later, rfl, -, hfirst, hkey⟩ := h
  have hbefore : 0 < (before.map key).count (key second) :=
    List.count_pos_iff.2 (hkey ▸ List.mem_map_of_mem hfirst)
  rw [List.map_append, List.map_cons, List.count_append, List.count_cons_self]
  omega

theorem FirstRepeat.not_nodup (h : FirstRepeat key xs first second) : ¬(xs.map key).Nodup := by
  classical
  intro hnodup
  have hone := List.nodup_iff_count_le_one.1 hnodup (key second)
  have hmore := h.one_lt_count
  omega

theorem FirstRepeat.append (h : FirstRepeat key xs first second) (ys : List α) :
    FirstRepeat key (xs ++ ys) first second := by
  obtain ⟨before, later, rfl, hbefore⟩ := h
  exact ⟨before, later ++ ys, by rw [List.append_assoc, List.cons_append], hbefore⟩

/-- Where some key is repeated, one is repeated first. -/
theorem exists_firstRepeat_iff :
    (∃ first second, FirstRepeat key xs first second) ↔ ¬(xs.map key).Nodup := by
  constructor
  · rintro ⟨first, second, h⟩
    exact h.not_nodup
  · induction xs using List.reverseRecOn with
    | nil => exact fun h => absurd List.nodup_nil h
    | append_singleton xs x ih =>
      intro h
      by_cases hxs : (xs.map key).Nodup
      · -- No key is repeated up to the last element, so that is the one.
        have hx : key x ∈ xs.map key := by
          by_contra hnew
          apply h
          rw [List.map_append, List.map_singleton]
          exact List.nodup_append'.2 ⟨hxs, List.nodup_singleton _,
            List.disjoint_singleton.2 hnew⟩
        obtain ⟨first, hfirst, hkey⟩ := List.mem_map.1 hx
        exact ⟨first, x, xs, [], rfl, hxs, hfirst, hkey⟩
      · obtain ⟨first, second, hrepeat⟩ := ih hxs
        exact ⟨first, second, hrepeat.append [x]⟩

/-- Two elements of a key may stand in front of all others. -/
theorem exists_perm_firstRepeat [DecidableEq κ] {k : κ} (h : 1 < (xs.map key).count k) :
    ∃ ys first second, ys.Perm xs ∧ FirstRepeat key ys first second ∧ key second = k := by
  have hperm := List.filter_append_perm (fun x => key x == k) xs
  have hcount : (xs.map key).count k = (xs.filter fun x => key x == k).length := by
    rw [List.count, List.countP_map, List.countP_eq_length_filter]
    rfl
  have hkey : ∀ x ∈ xs.filter fun x => key x == k, key x = k := by
    intro x hx
    exact eq_of_beq (List.mem_filter.1 hx).2
  cases hfront : xs.filter fun x => key x == k with
  | nil =>
    rw [hcount, hfront] at h
    simp at h
  | cons first rest =>
    cases rest with
    | nil =>
      rw [hcount, hfront] at h
      simp at h
    | cons second rest =>
      rw [hfront] at hperm hkey
      have hfirst : key first = k := hkey first (by simp)
      have hsecond : key second = k := hkey second (by simp)
      refine ⟨_, first, second, hperm, ⟨[first], _, rfl, ?_, ?_, ?_⟩, hsecond⟩
      · exact List.nodup_singleton _
      · exact List.mem_singleton_self first
      · rw [hfirst, hsecond]

/-! ## Ascending lists -/

theorem FirstRepeat.lt {ι : Type} [LT ι] {rank : α → ι} (h : FirstRepeat key xs first second)
    (hxs : xs.Pairwise (fun a b => rank a < rank b)) : rank first < rank second := by
  obtain ⟨before, later, rfl, -, hfirst, -⟩ := h
  exact (List.pairwise_append.1 hxs).2.2 first hfirst second List.mem_cons_self

section
variable {ι : Type} [LE ι] [LT ι] [Std.IsLinearOrder ι] [Std.LawfulOrderLT ι] {rank : α → ι}

/-- In a strictly ascending list, what lies below an element stands before it. -/
theorem mem_before_of_lt {before later : List α} {x y : α}
    (h : (before ++ x :: later).Pairwise (fun a b => rank a < rank b))
    (hy : y ∈ before ++ x :: later) (hlt : rank y < rank x) : y ∈ before := by
  obtain ⟨-, hlater, -⟩ := List.pairwise_append.1 h
  rcases List.mem_append.1 hy with hy | hy
  · exact hy
  · rcases List.mem_cons.1 hy with rfl | hy
    · exact absurd hlt (Std.lt_irrefl)
    · exact absurd hlt (Std.not_lt.2 (Std.le_of_lt ((List.pairwise_cons.1 hlater).1 y hy)))

/-- The element that is repeated is the only one below with the key. -/
theorem FirstRepeat.eq_first (h : FirstRepeat key xs first second)
    (hxs : xs.Pairwise (fun a b => rank a < rank b)) {x : α} (hx : x ∈ xs)
    (hlt : rank x < rank second) (hkey : key x = key second) : x = first := by
  obtain ⟨before, later, rfl, hnodup, hfirst, hsame⟩ := h
  exact List.inj_on_of_nodup_map hnodup (mem_before_of_lt hxs hx hlt) hfirst
    (hkey.trans hsame.symm)

/-- No element below repeats a key. -/
theorem FirstRepeat.least (h : FirstRepeat key xs first second)
    (hxs : xs.Pairwise (fun a b => rank a < rank b)) {x y : α} (hx : x ∈ xs) (hy : y ∈ xs)
    (hlt : rank x < rank y) (hkey : key x = key y) : rank second ≤ rank y := by
  obtain ⟨before, later, rfl, hnodup, -, -⟩ := h
  refine Std.not_lt.1 (fun hbelow => ?_)
  -- Both would stand before the second element, where no key is repeated.
  have hmem := mem_before_of_lt hxs hy hbelow
  have hmem' := mem_before_of_lt hxs hx (Std.lt_trans hlt hbelow)
  rw [List.inj_on_of_nodup_map hnodup hmem' hmem hkey] at hlt
  exact Std.lt_irrefl hlt

end

/-- Where a list ascends by its keys, no key below is repeated either. -/
theorem FirstRepeat.key_le [DecidableEq κ] [LE κ] [LT κ] [Std.IsLinearOrder κ]
    [Std.LawfulOrderLT κ] (h : FirstRepeat key xs first second)
    (hxs : xs.Pairwise (fun a b => key a ≤ key b)) {k : κ} (hk : 1 < (xs.map key).count k) :
    key second ≤ k := by
  obtain ⟨before, later, rfl, hnodup, -, -⟩ := h
  refine Std.not_lt.1 (fun hbelow => ?_)
  obtain ⟨-, hlater, -⟩ := List.pairwise_append.1 hxs
  -- All elements of a lesser key stand before, where each key has one.
  have hnone : k ∉ (second :: later).map key := by
    intro hmem
    obtain ⟨x, hx, rfl⟩ := List.mem_map.1 hmem
    rcases List.mem_cons.1 hx with rfl | hx
    · exact Std.lt_irrefl hbelow
    · exact absurd hbelow (Std.not_lt.2 ((List.pairwise_cons.1 hlater).1 x hx))
  have hone := List.nodup_iff_count_le_one.1 hnodup k
  rw [List.map_append, List.count_append, List.count_eq_zero_of_not_mem hnone] at hk
  omega

end RegistryTables
