/-
  Sorted lists. `sortOn` orders a list by a key and keeps equal keys in the order
  they came in; `keepFirst` drops, from a list in which equal keys stand together,
  all but the first of each key; `distinct` is the ascending list of the different
  elements of a list.

  What is proved: sorting keeps the elements (`sortOn_perm`) and orders them
  (`pairwise_sortOn`).
-/
namespace RegistryTables

/-- The elements in ascending order of `key`; equal keys keep their order. -/
def sortOn {α κ : Type} [LE κ] [DecidableLE κ] (key : α → κ) (xs : List α) : List α :=
  xs.mergeSort (fun a b => decide (key a ≤ key b))

/-- `xs` without the elements at its front whose key is `k`, and then without those
that repeat the key of the element kept before them. -/
def keepFirstAfter {α κ : Type} [DecidableEq κ] (key : α → κ) (k : κ) : List α → List α
  | [] => []
  | x :: rest =>
    if key x = k then keepFirstAfter key k rest else x :: keepFirstAfter key (key x) rest

/-- The first element of every run of equal keys. -/
def keepFirst {α κ : Type} [DecidableEq κ] (key : α → κ) : List α → List α
  | [] => []
  | x :: rest => x :: keepFirstAfter key (key x) rest

/-- The different elements, ascending. -/
def distinct {α : Type} [LE α] [DecidableLE α] [DecidableEq α] (xs : List α) : List α :=
  keepFirst id (sortOn id xs)

section
variable {α κ : Type}

theorem sortOn_perm [LE κ] [DecidableLE κ] (key : α → κ) (xs : List α) :
    (sortOn key xs).Perm xs :=
  List.mergeSort_perm xs _

theorem mem_sortOn [LE κ] [DecidableLE κ] {key : α → κ} {xs : List α} {x : α} :
    x ∈ sortOn key xs ↔ x ∈ xs :=
  (sortOn_perm key xs).mem_iff

/-- A list may be sorted by what a function makes of its elements before the function is
applied to them, or after. -/
theorem map_sortOn {β : Type} [LE κ] [DecidableLE κ] (f : α → β) (key : β → κ) (xs : List α) :
    (sortOn (fun x => key (f x)) xs).map f = sortOn key (xs.map f) :=
  List.map_mergeSort (fun _ _ _ _ => rfl)

/-- The order of the keys is one that a merge sort needs: transitive, and total. -/
theorem keyLe_trans [LE κ] [DecidableLE κ] [Std.IsLinearPreorder κ] (key : α → κ) (a b c : α)
    (hab : decide (key a ≤ key b) = true) (hbc : decide (key b ≤ key c) = true) :
    decide (key a ≤ key c) = true := by
  simp only [decide_eq_true_eq] at hab hbc ⊢
  exact Std.le_trans hab hbc

theorem keyLe_total [LE κ] [DecidableLE κ] [Std.IsLinearPreorder κ] (key : α → κ) (a b : α) :
    (decide (key a ≤ key b) || decide (key b ≤ key a)) = true := by
  simp only [Bool.or_eq_true, decide_eq_true_eq]
  exact Std.le_total

theorem pairwise_sortOn [LE κ] [DecidableLE κ] [Std.IsLinearPreorder κ] (key : α → κ)
    (xs : List α) : (sortOn key xs).Pairwise (fun a b => key a ≤ key b) :=
  (List.pairwise_mergeSort (keyLe_trans key) (keyLe_total key) xs).imp of_decide_eq_true

end

end RegistryTables
