import RegistryTables.Sounds
import RegistryTables.Proofs.StableOrder

/-
  The set of sound names, as a list and as something to search in.

  A name is kept unless it equals the one kept before it, and a name is looked for by
  halves. Both are right because the list ascends: equal names stand together, and what
  does not stand on the side where the search goes on is not in the set.

  What is proved:
    1. `toList_merge`, `mem_merge_iff`, `pairwise_lt_merge` — the set has the names of both
       lists, strictly ascending.
    2. `merge_eq_iff` — it depends on nothing but which names there are.
    3. `search_iff` — in a strictly ascending array a search between two places finds
       exactly what stands there, and so `contains_iff_mem`.
    4. `merged_names` — all of it together.
-/
namespace RegistryTables.Sounds

variable {effects music effects' music' : List String}

theorem toList_merge (effects music : List String) :
    (merge effects music).toList = distinct (effects ++ music) := rfl

theorem mem_merge_iff {name : String} :
    name ∈ (merge effects music).toList ↔ name ∈ effects ∨ name ∈ music := by
  rw [toList_merge, mem_distinct, List.mem_append]

theorem pairwise_lt_merge (effects music : List String) :
    (merge effects music).toList.Pairwise (· < ·) := by
  rw [toList_merge]
  exact pairwise_lt_distinct (effects ++ music)

/-- Lists of the same names have the same set, in whatever order the names come, however often,
and in whichever of the two lists. Lists of different names have not. -/
theorem merge_eq_iff :
    merge effects' music' = merge effects music ↔
      ∀ name, (name ∈ effects' ∨ name ∈ music') ↔ (name ∈ effects ∨ name ∈ music) := by
  constructor
  · intro h name
    rw [← mem_merge_iff, h, mem_merge_iff]
  · intro h
    have hnames : distinct (effects' ++ music') = distinct (effects ++ music) := by
      apply distinct_eq_of_mem_iff
      intro name
      rw [List.mem_append, List.mem_append, h name]
    rw [merge, merge, hnames]

/-! ## The search -/

/-- The names before a place are less than that of the place, and those behind it greater. -/
theorem lt_of_getElem_lt {names : Array String} (hasc : names.toList.Pairwise (· < ·))
    {i j : Nat} (hi : i < names.size) (hj : j < names.size) (h : names[i] < names[j]) : i < j := by
  apply Nat.lt_of_not_le
  intro hji
  rcases Nat.lt_or_eq_of_le hji with hlt | rfl
  · have hgreater := List.pairwise_iff_getElem.1 hasc j i hj hi hlt
    exact Std.lt_irrefl (Std.lt_trans h hgreater)
  · exact Std.lt_irrefl h

theorem search_iff {names : Array String} (hasc : names.toList.Pairwise (· < ·)) (probe : String)
    (low high : Nat) (hhigh : high ≤ names.size) :
    search names probe low high hhigh = true ↔
      ∃ i, ∃ hi : i < names.size, low ≤ i ∧ i < high ∧ names[i] = probe := by
  fun_induction search names probe low high hhigh with
  | case1 low high hhigh hlt middle hmiddle heq =>
    -- The name in the middle is the one that is looked for.
    exact iff_of_true rfl ⟨middle, hmiddle, by omega, by omega, heq⟩
  | case2 low high hhigh hlt middle hmiddle hne hless ih =>
    rw [ih]
    constructor
    · rintro ⟨i, hi, hlow, hbelow, hfound⟩
      exact ⟨i, hi, by omega, hbelow, hfound⟩
    · rintro ⟨i, hi, hlow, hbelow, rfl⟩
      have hright : middle < i := lt_of_getElem_lt hasc hmiddle hi hless
      exact ⟨i, hi, hright, hbelow, rfl⟩
  | case3 low high hhigh hlt middle hmiddle hne hless ih =>
    rw [ih]
    constructor
    · rintro ⟨i, hi, hlow, hbelow, hfound⟩
      exact ⟨i, hi, hlow, by omega, hfound⟩
    · rintro ⟨i, hi, hlow, hbelow, rfl⟩
      have hgreater : names[i] < names[middle] :=
        Std.lt_of_le_of_ne (Std.not_lt.1 hless) (Ne.symm hne)
      have hleft : i < middle := lt_of_getElem_lt hasc hi hmiddle hgreater
      exact ⟨i, hi, hlow, hleft, rfl⟩
  | case4 low high hhigh hempty =>
    refine iff_of_false Bool.false_ne_true ?_
    rintro ⟨i, hi, hlow, hbelow, -⟩
    exact hempty (Nat.lt_of_le_of_lt hlow hbelow)

theorem contains_iff_mem {s : Sounds} (hasc : s.toList.Pairwise (· < ·)) (probe : String) :
    s.contains probe = true ↔ probe ∈ s.toList := by
  rw [contains, search_iff hasc, toList, Array.mem_toList_iff, Array.mem_iff_getElem]
  constructor
  · rintro ⟨i, hi, -, -, hfound⟩
    exact ⟨i, hi, hfound⟩
  · rintro ⟨i, hi, hfound⟩
    exact ⟨i, hi, Nat.zero_le i, hi, hfound⟩

/-- **The sound names are a sorted set.** They ascend strictly, they are those of the two lists,
and nothing else about the lists counts: not the order, not what is repeated, not which of them
comes first. The search answers for every probe whether one of the lists has it. -/
theorem merged_names (effects music : List String) :
    (merge effects music).toList.Pairwise (· < ·) ∧
    (∀ name, name ∈ (merge effects music).toList ↔ name ∈ effects ∨ name ∈ music) ∧
    (∀ effects' music', merge effects' music' = merge effects music ↔
      ∀ name, (name ∈ effects' ∨ name ∈ music') ↔ (name ∈ effects ∨ name ∈ music)) ∧
    merge music effects = merge effects music ∧
    ∀ probe, (merge effects music).contains probe = true ↔ probe ∈ effects ∨ probe ∈ music := by
  have hasc := pairwise_lt_merge effects music
  refine ⟨hasc, fun _ => mem_merge_iff, fun _ _ => merge_eq_iff, ?_, ?_⟩
  · -- exchanged
    exact merge_eq_iff.2 fun _ => or_comm
  · intro probe
    rw [contains_iff_mem hasc, mem_merge_iff]

end RegistryTables.Sounds
