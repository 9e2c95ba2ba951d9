import RegistryTables.Proofs.BuiltTags
import RegistryTables.Proofs.EnumerationOrder

/-
  Going through a registry in order.

  A registry and an index of tags are gone through by the keys of their entries, and only
  the values are handed out. That these ascend by their own identifiers or names, and that
  none comes twice, is no matter of the sort: it holds because every value stands under the
  key it bears, and so it does in whatever is reached by registrations.

  Neither the order in which the entries are enumerated counts, nor how the sort treats
  entries of equal keys, for there are none.

  What is proved:
    1. `Index.walk_iff` — all ways to sort the entries of an index give one list.
    2. `Index.listing_sorted` — where every value stands under its own key, this list has
       every value once, ascending by its own key, and finds it under that.
    3. `TagIndex.Reachable.inStep` — every registration and every build keeps the tags of an
       index under their own names.
    4. `sorted_iteration` — what a walk through the registry and the tags hands out.
-/
namespace RegistryTables

/-! ## Walks through an index -/

namespace Index

variable {κ α : Type} [DecidableEq κ] {m : Index κ α} {key : α → κ} {xs : List α}

/-- The values by ascending keys, as some way to sort the entries gives them. Nothing is said
of the order of entries that share a key. -/
def Walk [LE κ] (m : Index κ α) (xs : List α) : Prop :=
  ∃ es : List (κ × α), es.Perm m.entries ∧ es.Pairwise (fun a b => a.1 ≤ b.1) ∧
    es.map Prod.snd = xs

/-- The list has every value of the index once. It ascends by a key that the values bear
themselves, and under this key each of them is found. -/
structure Listing [DecidableEq α] [LT κ] (m : Index κ α) (key : α → κ) (xs : List α) : Prop where
  once : ∀ k x, m.get? k = some x → xs.count x = 1
  found : ∀ x ∈ xs, m.get? (key x) = some x
  ascending : xs.Pairwise (fun x y => key x < key y)

variable [LE κ] [DecidableLE κ]

theorem mem_sorted_values {x : α} :
    x ∈ m.sorted.map Prod.snd ↔ ∃ k, m.get? k = some x := by
  rw [List.mem_map]
  simp only [get?_eq_some_iff, sorted, mem_sortOn]
  constructor
  · rintro ⟨e, he, rfl⟩
    exact ⟨e.1, he⟩
  · rintro ⟨k, he⟩
    exact ⟨(k, x), he, rfl⟩

section
variable [Std.IsLinearOrder κ]

/-- No two entries share a key, so there is but one way to sort them. -/
theorem walk_iff : m.Walk xs ↔ xs = m.sorted.map Prod.snd := by
  constructor
  · rintro ⟨es, hperm, hasc, rfl⟩
    have hnodup : (es.map Prod.fst).Nodup := (hperm.map Prod.fst).nodup_iff.2 m.keys_nodup
    have hes : es = m.sorted := by
      rw [sorted, ← sortOn_eq_of_perm hperm hnodup, sortOn_of_pairwise_le hasc]
    rw [hes]
  · rintro rfl
    exact ⟨m.sorted, sortOn_perm Prod.fst _, pairwise_sortOn Prod.fst _, rfl⟩

variable [LT κ] [Std.LawfulOrderLT κ]

/-- The entries ascend by their keys, so the values do by their own, if that is the same. -/
theorem listing_sorted [DecidableEq α] (hown : ∀ k x, m.get? k = some x → key x = k) :
    m.Listing key (m.sorted.map Prod.snd) := by
  have hfound : ∀ e ∈ m.sorted, m.get? e.1 = some e.2 := by
    intro e he
    exact get?_eq_some_iff.2 (mem_sortOn.1 he)
  have hasc : (m.sorted.map Prod.snd).Pairwise (fun x y => key x < key y) := by
    rw [List.pairwise_map]
    refine (pairwise_lt_sortOn m.keys_nodup).imp_of_mem ?_
    intro a b ha hb hlt
    rw [hown _ _ (hfound a ha), hown _ _ (hfound b hb)]
    exact hlt
  refine ⟨?_, ?_, hasc⟩
  · intro k x hget
    have hnodup : (m.sorted.map Prod.snd).Nodup := (nodup_map_of_pairwise_lt hasc).of_map
    exact List.count_eq_one_of_mem hnodup (mem_sorted_values.2 ⟨k, hget⟩)
  · intro x hx
    obtain ⟨k, hget⟩ := mem_sorted_values.1 hx
    rw [hown k x hget]
    exact hget

end

end Index

/-! ## Tags that are reached by registrations -/

namespace TagIndex

/-- An index that can come about: a new one, one that a build gives, and what a registration,
successful or not, makes of one of these. -/
inductive Reachable : TagIndex → Prop
  | new : Reachable empty
  | built {source : List (String × List Identifier)} {types : Registry} {r : TagIndex} :
    types.Reachable → (build source types).value = .ok r → Reachable r
  | registered {r : TagIndex} (a : Resolution) : Reachable r → Reachable (r.register a.tag).1

theorem Reachable.inStep {r : TagIndex} (h : r.Reachable) : r.InStep := by
  induction h with
  | new => exact inStep_empty
  | built htypes hbuild =>
    obtain ⟨-, rfl⟩ := build_eq_ok_iff.1 hbuild
    exact inStep_offerAll htypes _
  | registered a _ ih => exact ih.offer a.tag

theorem InStep.name_eq {r : TagIndex} (h : r.InStep) {n : String} {t : Tag}
    (ht : r.get? n = some t) : t.name = n :=
  h.named (n, t) (Index.get?_eq_some_iff.1 ht)

end TagIndex

/-! ## Walks through a registry and its tags -/

/-- **Whoever goes through a registry in order meets every object once, and in the order of
the identifiers that the objects bear.** Each object is the one that its identifier leads to.
The same is true of the tags of an index and of their names. This holds of whatever was
reached by registrations, however its entries are enumerated and sorted. -/
theorem sorted_iteration {r q : Registry} {tags u : TagIndex} (hr : r.Reachable)
    (htags : tags.Reachable) (hq : q.byIdentifier.entries.Perm r.byIdentifier.entries)
    (hu : u.byName.entries.Perm tags.byName.entries) :
    (r.byIdentifier.Listing (fun o => o.identifier) q.sortedObjects ∧
      q.sortedObjects = r.sortedObjects ∧
      (∀ id, q.get? id = r.get? id) ∧
      ∀ os, q.byIdentifier.Walk os → os = q.sortedObjects) ∧
    tags.byName.Listing Tag.name u.sortedTags ∧
      u.sortedTags = tags.sortedTags ∧
      (∀ name, u.get? name = tags.get? name) ∧
      ∀ ts, u.byName.Walk ts → ts = u.sortedTags := by
  have hobjects : q.sortedObjects = r.sortedObjects :=
    congrArg (List.map Prod.snd) (Index.sorted_eq_of_perm hq)
  have hnames : u.sortedTags = tags.sortedTags :=
    congrArg (List.map Prod.snd) (Index.sorted_eq_of_perm hu)
  refine ⟨⟨?_, hobjects, Index.get?_eq_of_perm hq, fun _ => Index.walk_iff.1⟩, ?_, hnames,
    Index.get?_eq_of_perm hu, fun _ => Index.walk_iff.1⟩
  · rw [hobjects]
    exact Index.listing_sorted fun _ _ => hr.identifier_eq
  · rw [hnames]
    exact Index.listing_sorted fun _ _ => htags.inStep.name_eq

/-- A registry of four calls, one of which registers an identifier again. -/
def reedAndRoot : Registry :=
  (Ledger.after [.register ⟨"reed", 4⟩, .register ⟨"root", 4⟩, .register ⟨"reed", 5⟩,
    .register ⟨"bark", 6⟩]).registry

/-- The same registry, with its entries enumerated from the last to the first. -/
def reedAndRootBackwards : Registry :=
  { reedAndRoot with byIdentifier := ⟨reedAndRoot.byIdentifier.entries.reverse, by decide⟩ }

theorem reachable_reedAndRoot : reedAndRoot.Reachable := ⟨_, rfl⟩

/-- Two tags that are built, and one that is registered afterwards. -/
def dyeAndThatch : TagIndex :=
  TagIndex.empty.offerAll reedAndRoot
    [("fuel", ["root", "bark"]), ("thatch", ["straw", "reed"]), ("dye", ["root"])]

theorem reachable_dyeAndThatch : dyeAndThatch.Reachable := by
  have hbuild : (TagIndex.build [("fuel", ["root", "bark"]), ("thatch", ["straw", "reed"])]
      reedAndRoot).value = .ok (TagIndex.empty.offerAll reedAndRoot
        [("fuel", ["root", "bark"]), ("thatch", ["straw", "reed"])]) := by
    refine TagIndex.build_eq_ok_iff.2 ⟨by decide, ?_⟩
    rw [sortOn_of_pairwise_le (by decide)]
  exact .registered ⟨"dye", ["root"], reedAndRoot, reachable_reedAndRoot⟩
    (.built reachable_reedAndRoot hbuild)

def dyeAndThatchBackwards : TagIndex :=
  { dyeAndThatch with byName := ⟨dyeAndThatch.byName.entries.reverse, by decide⟩ }

/-- In neither order do the small registry and its tags ascend by themselves. The walks through
them do, and hand out the reed of the first registration. -/
theorem sorted_iteration_reedAndRoot :
    reedAndRoot.Reachable ∧ dyeAndThatch.Reachable ∧
    reedAndRoot.byIdentifier.keys = ["reed", "root", "bark"] ∧
    reedAndRootBackwards.byIdentifier.keys = ["bark", "root", "reed"] ∧
    dyeAndThatch.byName.keys = ["fuel", "thatch", "dye"] ∧
    dyeAndThatchBackwards.byName.keys = ["dye", "thatch", "fuel"] ∧
    reedAndRoot.byIdentifier.Listing (fun o => o.identifier) reedAndRootBackwards.sortedObjects ∧
    [⟨⟨"bark", 6⟩, 3⟩, ⟨⟨"reed", 4⟩, 0⟩, ⟨⟨"root", 4⟩, 1⟩] = reedAndRootBackwards.sortedObjects ∧
    dyeAndThatch.byName.Listing Tag.name dyeAndThatchBackwards.sortedTags ∧
    dyeAndThatchBackwards.sortedTags = dyeAndThatch.sortedTags := by
  obtain ⟨⟨hobjects, -, -, hwalk⟩, htags, hsame, -, -⟩ :=
    sorted_iteration (q := reedAndRootBackwards) (u := dyeAndThatchBackwards)
      reachable_reedAndRoot reachable_dyeAndThatch (List.reverse_perm _) (List.reverse_perm _)
  refine ⟨reachable_reedAndRoot, reachable_dyeAndThatch, by decide, by decide, by decide, by decide,
    hobjects, ?_, htags, hsame⟩
  exact hwalk _ ⟨[("bark", ⟨⟨"bark", 6⟩, 3⟩), ("reed", ⟨⟨"reed", 4⟩, 0⟩),
    ("root", ⟨⟨"root", 4⟩, 1⟩)], by decide, by decide, rfl⟩

end RegistryTables
