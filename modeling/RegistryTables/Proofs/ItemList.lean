import RegistryTables.Items
import RegistryTables.Proofs.FirstWriter
import RegistryTables.Proofs.StableOrder

/-
  The order of the item list: whatever the strategy and the tables, it is strictly
  ascending, so no identifier has two entries.

  What is proved:
    1. `pairwise_lt_resolve` — the order of the list.
    2. `mem_tidy` — of the entries of one identifier the list has the first.
    3. `nodup_nameOnly` — the items known by name only have different identifiers.
    4. `pairwise_lt_namespaceIds` — the identifiers of the palette that are no item views
       are strictly ascending as well.
-/
namespace RegistryTables.Items

theorem pairwise_lt_tidy (es : List TypeEntry) :
    (tidy es).Pairwise (fun a b => a.identifier < b.identifier) :=
  pairwise_lt_keepFirst (pairwise_sortOn TypeEntry.identifier es)

theorem mem_tidy {es : List TypeEntry} {e : TypeEntry} :
    e ∈ tidy es ↔ es.find? (fun d => d.identifier = e.identifier) = some e := by
  rw [← Index.find?_key_eq_some_iff (nodup_map_of_pairwise_lt (pairwise_lt_tidy es)), tidy,
    find?_keepFirst, find?_sortOn]

theorem pairwise_lt_resolve (strategy : Strategy)
    (internalItems externalItems externalBlocks : IdTable) (sentinel : LegacyId) :
    (resolve strategy internalItems externalItems externalBlocks sentinel).value.Pairwise
      (fun a b => a.identifier < b.identifier) := by
  cases strategy with
  | crossReferenced => exact pairwise_lt_tidy _
  | direct => exact pairwise_lt_tidy _

theorem nodup_nameOnly (internalItems externalItems externalBlocks : IdTable)
    (sentinel : LegacyId) :
    ((nameOnly internalItems externalItems externalBlocks sentinel).map
      TypeEntry.identifier).Nodup := by
  rw [nameOnly, List.map_map]
  exact (externalItems.keys_nodup.filter _).map fun _ _ h => h

theorem nodup_plain (palette : IdTable) :
    ((palette.keys.filter fun i => !Identifier.isItemView i).map id).Nodup := by
  rw [List.map_id]
  exact palette.keys_nodup.filter _

theorem pairwise_lt_namespaceIds (palette : IdTable) :
    (namespaceIds palette).Pairwise (· < ·) :=
  pairwise_lt_sortOn (nodup_plain palette)

end RegistryTables.Items
