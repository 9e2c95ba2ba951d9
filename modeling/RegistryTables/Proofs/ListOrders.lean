import RegistryTables.Proofs.ByteOrder
import RegistryTables.Proofs.SortedIteration

/-
  The lists of the program in the order of bytes and in that of code points.

  Lists are sorted in the order `≤` of strings, which both comparisons of strings agree
  with. So whichever of the two a list is sorted by, elements are moved past each other
  alike, and equal keys are the same strings either way.

  What is proved:
    1. `Collation.sort_eq_sortOn` — sorting by either comparison is the sorting of the
       program, by any key; `Collation.items_eq` — so the item list has the same entries.
    2. `Collation.sorted_of_pairwise_lt` — a list that ascends strictly does so in either
       order, and is what either order makes of its elements.
    3. `lists_in_either_order` — so it is with all lists that the program sorts.
-/
namespace RegistryTables

/-- What strings are compared by. -/
inductive Collation where
  /-- Their UTF-8 bytes. -/
  | bytes
  /-- The code points of their characters. -/
  | codePoints
  deriving DecidableEq, Repr

namespace Collation

variable {α : Type} {key : α → String} {xs : List α}

def compare : Collation → String → String → Ordering
  | bytes => Text.compareBytes
  | codePoints => Text.compareCodePoints

/-- The elements in the given order of their keys; equal keys keep their order. -/
def sort (order : Collation) (key : α → String) (xs : List α) : List α :=
  xs.mergeSort (fun a b => (order.compare (key a) (key b)).isLE)

/-- The list ascends strictly in the given order of its keys, and whatever sequence its
elements come in, sorting them in this order gives the list. -/
structure Sorted (order : Collation) (key : α → String) (xs : List α) : Prop where
  ascending : xs.Pairwise (fun a b => order.compare (key a) (key b) = .lt)
  sort_eq : ∀ ys : List α, ys.Perm xs → order.sort key ys = xs

/-- The item list with all its sorting in the given order. The order has a say in more than the
sequence: of the entries of one identifier the list has the first. -/
def items (order : Collation) (strategy : Strategy)
    (internalItems externalItems externalBlocks : IdTable) (sentinel : LegacyId) :
    List TypeEntry :=
  let entries := match strategy with
    | .direct => externalItems.entries.map fun e => ⟨e.1, e.2⟩
    | .crossReferenced =>
      ((order.sort Prod.fst internalItems.entries).filter fun e =>
        externalItems.contains (Text.lowercase e.1)).map
          (fun e => ⟨Identifier.withoutItemInfixes e.1, e.2⟩) ++
        Items.nameOnly internalItems externalItems externalBlocks sentinel
  keepFirst TypeEntry.identifier (order.sort TypeEntry.identifier entries)

theorem compare_eq (order : Collation) (s t : String) :
    order.compare s t = Text.compareBytes s t := by
  cases order with
  | bytes => rfl
  | codePoints => exact (Text.compareBytes_eq s t).symm

theorem sort_eq_sortOn (order : Collation) (key : α → String) (xs : List α) :
    order.sort key xs = sortOn key xs := by
  have hle : ∀ a b, (order.compare (key a) (key b)).isLE = decide (key a ≤ key b) := by
    intro a b
    rw [compare_eq, Bool.eq_iff_iff, Text.isLE_compareBytes_iff, decide_eq_true_eq]
  simp only [sort, hle]
  rfl

theorem items_eq (order : Collation) (strategy : Strategy)
    (internalItems externalItems externalBlocks : IdTable) (sentinel : LegacyId) :
    order.items strategy internalItems externalItems externalBlocks sentinel =
      (Items.resolve strategy internalItems externalItems externalBlocks sentinel).value := by
  simp only [items, sort_eq_sortOn]
  cases strategy with
  | crossReferenced => rfl
  | direct => rfl

theorem sorted_of_pairwise_lt (order : Collation)
    (h : xs.Pairwise (fun a b => key a < key b)) : order.Sorted key xs := by
  refine ⟨?_, ?_⟩
  · refine h.imp ?_
    intro a b hlt
    rw [compare_eq]
    exact Text.compareBytes_eq_lt_iff.2 hlt
  · intro ys hperm
    have hnodup : (ys.map key).Nodup :=
      (hperm.map key).nodup_iff.2 (nodup_map_of_pairwise_lt h)
    calc order.sort key ys = sortOn key ys := sort_eq_sortOn order key ys
      _ = sortOn key xs := sortOn_eq_of_perm hperm hnodup
      _ = xs := sortOn_of_pairwise_le (h.imp Std.le_of_lt)

end Collation

/-- **The order of bytes is the order of code points**, and it tells apart any two strings that
differ. So the items, the blocks, the namespace ids, the registered objects, the tags, the
members of a tag with their types, and the sounds come in the same sequence whichever of the
two orders they are sorted by. -/
theorem lists_in_either_order :
    (∀ s t, Text.compareBytes s t = Text.compareCodePoints s t ∧
      (Text.compareBytes s t = .eq ↔ s = t) ∧
      ((Text.compareBytes s t).isLE = true ↔ s ≤ t) ∧
      Text.utf8 s = s.toUTF8.data.toList) ∧
    ∀ order : Collation,
      (∀ (α : Type) (key : α → String) (xs : List α), order.sort key xs = sortOn key xs) ∧
      (∀ strategy internalItems externalItems externalBlocks sentinel,
        let items := Items.resolve strategy internalItems externalItems externalBlocks sentinel
        order.items strategy internalItems externalItems externalBlocks sentinel = items.value ∧
          order.Sorted TypeEntry.identifier items.value) ∧
      (∀ palette legacyBlocks internalItems blocks,
        (Blocks.resolve palette legacyBlocks internalItems).value = .ok blocks →
          order.Sorted Block.identifier blocks) ∧
      (∀ palette, order.Sorted id (Items.namespaceIds palette)) ∧
      (∀ types : Registry, types.Reachable →
        order.Sorted (fun o => o.identifier) types.sortedObjects) ∧
      (∀ tags : TagIndex, tags.Reachable → order.Sorted Tag.name tags.sortedTags) ∧
      (∀ name members types, order.Sorted id (Tag.resolve name members types).members) ∧
      (∀ name members types, types.Reachable →
        order.Sorted (fun o => o.identifier) (Tag.resolve name members types).types) ∧
      ∀ effects music, order.Sorted id (Sounds.merge effects music).toList := by
  refine ⟨?_, ?_⟩
  · intro s t
    exact ⟨Text.compareBytes_eq s t, Text.compareBytes_eq_eq_iff, Text.isLE_compareBytes_iff,
      Text.utf8_eq s⟩
  · intro order
    refine ⟨fun _ => order.sort_eq_sortOn, ?_, ?_, ?_, ?_, ?_, ?_, ?_, ?_⟩
    · -- items
      intro strategy internalItems externalItems externalBlocks sentinel
      exact ⟨order.items_eq _ _ _ _ _,
        order.sorted_of_pairwise_lt (Items.pairwise_lt_resolve _ _ _ _ _)⟩
    · -- blocks
      intro palette legacyBlocks internalItems blocks hblocks
      exact order.sorted_of_pairwise_lt (Blocks.pairwise_lt_blockList hblocks)
    · -- namespace ids
      intro palette
      exact order.sorted_of_pairwise_lt (Items.pairwise_lt_namespaceIds palette)
    · -- registered objects
      intro types htypes
      exact order.sorted_of_pairwise_lt
        (Index.listing_sorted fun _ _ => htypes.identifier_eq).ascending
    · -- tags
      intro tags htags
      exact order.sorted_of_pairwise_lt
        (Index.listing_sorted fun _ _ => htags.inStep.name_eq).ascending
    · -- members
      intro name members types
      exact order.sorted_of_pairwise_lt Tag.pairwise_lt_members_resolve
    · -- types of a tag
      intro name members types htypes
      exact order.sorted_of_pairwise_lt (Tag.pairwise_lt_types_resolve htypes)
    · -- sounds
      intro effects music
      exact order.sorted_of_pairwise_lt (Sounds.pairwise_lt_merge effects music)

/-- A palette in which a character of four bytes stands before one of three. -/
def clefAndLigature : IdTable := ⟨[("𝄞", 7), ("ﬀ", 8)], by decide⟩

/-- The ligature comes before the clef in either order, though in units of 16 bits it would not.
The registry and the tags of reed and root are in either order as well. -/
theorem lists_in_either_order_clefAndLigature :
    Text.utf8 "ﬀ" = [0xef, 0xac, 0x80] ∧ Text.utf8 "𝄞" = [0xf0, 0x9d, 0x84, 0x9e] ∧
    Text.compareBytes "ﬀ" "𝄞" = Text.compareCodePoints "ﬀ" "𝄞" ∧
    (Blocks.resolve clefAndLigature clefAndLigature .empty).value =
      .ok [⟨"ﬀ", 8, false⟩, ⟨"𝄞", 7, false⟩] ∧
    Collation.bytes.Sorted Block.identifier [⟨"ﬀ", 8, false⟩, ⟨"𝄞", 7, false⟩] ∧
    Collation.codePoints.Sorted Block.identifier [⟨"ﬀ", 8, false⟩, ⟨"𝄞", 7, false⟩] ∧
    reedAndRoot.Reachable ∧
    Collation.bytes.Sorted (fun o => o.identifier) reedAndRoot.sortedObjects ∧
    Collation.bytes.Sorted (fun o => o.identifier)
      (Tag.resolve "fuel" ["root", "bark", "ash"] reedAndRoot).types ∧
    dyeAndThatch.Reachable ∧ Collation.bytes.Sorted Tag.name dyeAndThatch.sortedTags := by
  obtain ⟨hstrings, hlists⟩ := lists_in_either_order
  obtain ⟨-, -, hblocks, -, hobjects, htags, -, htypes, -⟩ := hlists .bytes
  obtain ⟨-, -, hblocks', -⟩ := hlists .codePoints
  have hsorted : sortOn Block.identifier [⟨"𝄞", 7, false⟩, ⟨"ﬀ", 8, false⟩] =
      [⟨"ﬀ", 8, false⟩, ⟨"𝄞", 7, false⟩] :=
    (sortOn_eq_of_perm (.swap _ _ _) (by decide)).trans (sortOn_of_pairwise_le (by decide))
  have hresolve : (Blocks.resolve clefAndLigature clefAndLigature .empty).value =
      .ok [⟨"ﬀ", 8, false⟩, ⟨"𝄞", 7, false⟩] :=
    Blocks.resolve_eq_ok_iff.2 ⟨hsorted.symm, by decide⟩
  exact ⟨by decide, by decide, (hstrings _ _).1, hresolve, hblocks _ _ _ _ hresolve,
    hblocks' _ _ _ _ hresolve, reachable_reedAndRoot, hobjects _ reachable_reedAndRoot,
    htypes _ _ _ reachable_reedAndRoot, reachable_dyeAndThatch, htags _ reachable_dyeAndThatch⟩

end RegistryTables
