import RegistryTables.Proofs.ItemList

/-
  Which items the cross-referenced strategy finds.

  The tables are compared under three spellings. An internal item is looked up by its
  lower-case form, listed without its `item.`, and an external item is looked up among the
  internal items as it is. So several internal items may take one identifier, and an
  external item may have the identifier that an internal one takes; the list has one entry
  for them, and the choice rests on the order in which the entries come to be sorted.

  What is proved:
    1. `find?_confirmed` — of the internal items that take an identifier, the first is the
       one that is least in the internal table.
    2. `find?_nameOnly` — which external items are known by name only.
    3. `mem_crossReferenced_iff` — what the item list has, and in which order.
-/
namespace RegistryTables.Items

variable {internalItems externalItems externalBlocks : IdTable} {sentinel l : LegacyId}
  {x i : Identifier}

/-- An internal item that the external table confirms, and that takes an identifier. -/
structure ConfirmedAs (internalItems externalItems : IdTable) (x i : Identifier) : Prop where
  internal : i ∈ internalItems.keys
  external : Text.lowercase i ∈ externalItems.keys
  name : Identifier.withoutItemInfixes i = x

theorem confirmedAs_iff (h : internalItems.get? i = some l) :
    ConfirmedAs internalItems externalItems x i ↔
      externalItems.contains (Text.lowercase i) = true ∧ Identifier.withoutItemInfixes i = x := by
  rw [Index.contains_iff]
  constructor
  · intro hi
    exact ⟨hi.external, hi.name⟩
  · rintro ⟨hexternal, hname⟩
    exact ⟨Index.mem_keys_iff.2 ⟨l, h⟩, hexternal, hname⟩

/-- The internal table is gone through in the order of its identifiers. -/
theorem find?_confirmed :
    (confirmed internalItems externalItems).find? (fun e => e.identifier = x) = some ⟨x, l⟩ ↔
      ∃ i, ConfirmedAs internalItems externalItems x i ∧
        (∀ j, ConfirmedAs internalItems externalItems x j → i ≤ j) ∧
        internalItems.get? i = some l := by
  have hsorted : internalItems.sorted.Pairwise (fun a b => a.1 < b.1) :=
    pairwise_lt_sortOn internalItems.keys_nodup
  have hmem : ∀ e, e ∈ internalItems.sorted ↔ internalItems.get? e.1 = some e.2 := fun e =>
    mem_sortOn.trans Index.get?_eq_some_iff.symm
  rw [confirmed, List.find?_map, List.find?_filter, Option.map_eq_some_iff]
  simp only [find?_eq_some_iff_least hsorted, hmem, Function.comp_apply, decide_eq_true_eq]
  constructor
  · rintro ⟨e, ⟨hget, he, hleast⟩, heq⟩
    obtain ⟨rfl, rfl⟩ := TypeEntry.mk.inj heq
    refine ⟨e.1, (confirmedAs_iff hget).2 he, ?_, hget⟩
    intro j hj
    obtain ⟨m, hm⟩ := Index.mem_keys_iff.1 hj.internal
    exact hleast (j, m) hm ((confirmedAs_iff hm).1 hj)
  · rintro ⟨i, hi, hleast, hget⟩
    refine ⟨(i, l), ⟨hget, (confirmedAs_iff hget).1 hi, ?_⟩, ?_⟩
    · intro e he hconfirmed
      exact hleast e.1 ((confirmedAs_iff he).2 hconfirmed)
    · rw [hi.name]

theorem find?_confirmed_eq_none :
    (confirmed internalItems externalItems).find? (fun e => e.identifier = x) = none ↔
      ¬ ∃ i, ConfirmedAs internalItems externalItems x i := by
  rw [Index.find?_key_eq_none, not_iff_not, confirmed, List.map_map, List.mem_map]
  constructor
  · rintro ⟨e, he, rfl⟩
    obtain ⟨hmem, hexternal⟩ := List.mem_filter.1 he
    have hget := Index.get?_eq_some_iff.2 (mem_sortOn.1 hmem)
    exact ⟨e.1, (confirmedAs_iff hget).2 ⟨hexternal, rfl⟩⟩
  · rintro ⟨i, hi⟩
    obtain ⟨n, hn⟩ := Index.mem_keys_iff.1 hi.internal
    refine ⟨(i, n), List.mem_filter.2 ⟨mem_sortOn.2 (Index.get?_eq_some_iff.1 hn), ?_⟩, hi.name⟩
    exact ((confirmedAs_iff hn).1 hi).1

theorem find?_nameOnly :
    (nameOnly internalItems externalItems externalBlocks sentinel).find?
        (fun e => e.identifier = x) = some ⟨x, l⟩ ↔
      x ∈ externalItems.keys ∧ x ∉ externalBlocks.keys ∧ x ∉ internalItems.keys ∧
        l = sentinel := by
  rw [Index.find?_key_eq_some_iff (x := TypeEntry.mk x l) (nodup_nameOnly _ _ _ _), nameOnly,
    List.mem_map]
  simp only [List.mem_filter, Bool.and_eq_true, Bool.not_eq_true', ← Bool.not_eq_true,
    Index.contains_iff]
  constructor
  · rintro ⟨y, ⟨hexternal, hblocks, hinternal⟩, heq⟩
    obtain ⟨rfl, rfl⟩ := TypeEntry.mk.inj heq
    exact ⟨hexternal, hblocks, hinternal, rfl⟩
  · rintro ⟨hexternal, hblocks, hinternal, rfl⟩
    exact ⟨x, ⟨hexternal, hblocks, hinternal⟩, rfl⟩

/-- The item list of the cross-referenced strategy ascends. An identifier that internal
items take has the number of the least of them; any other stands for an external item known
by name only, and has the number that says so. -/
theorem mem_crossReferenced_iff (internalItems externalItems externalBlocks : IdTable)
    (sentinel : LegacyId) :
    (crossReferenced internalItems externalItems externalBlocks sentinel).Pairwise
      (fun a b => a.identifier < b.identifier) ∧
    ∀ (x : Identifier) (l : LegacyId),
      ⟨x, l⟩ ∈ crossReferenced internalItems externalItems externalBlocks sentinel ↔
        (∃ i, ConfirmedAs internalItems externalItems x i ∧
          (∀ j, ConfirmedAs internalItems externalItems x j → i ≤ j) ∧
          internalItems.get? i = some l) ∨
        ((¬ ∃ i, ConfirmedAs internalItems externalItems x i) ∧
          x ∈ externalItems.keys ∧ x ∉ externalBlocks.keys ∧ x ∉ internalItems.keys ∧
          l = sentinel) := by
  refine ⟨pairwise_lt_tidy _, ?_⟩
  intro x l
  rw [crossReferenced, mem_tidy, List.find?_append, Option.or_eq_some_iff, find?_confirmed,
    find?_confirmed_eq_none, find?_nameOnly]

/-- Internal items with capital letters, one of them with a sigma at its end. -/
def capitalNames : IdTable := .ofList [("minecraft:Golden_Apple", 322), ("minecraft:ΞΙΦΟΣ", 7)]

/-- The same names in lower case. -/
def smallNames : IdTable := .ofList [("minecraft:golden_apple", 1), ("minecraft:ξιφος", 2)]

/-- Both capital names are confirmed, and a small one is known by name only. -/
theorem mem_crossReferenced_iff_goldenApple :
    ⟨"minecraft:Golden_Apple", 322⟩ ∈ crossReferenced capitalNames smallNames {} (-1) ∧
    ⟨"minecraft:ΞΙΦΟΣ", 7⟩ ∈ crossReferenced capitalNames smallNames {} (-1) ∧
    ⟨"minecraft:golden_apple", -1⟩ ∈ crossReferenced capitalNames smallNames {} (-1) := by
  obtain ⟨-, hmem⟩ := mem_crossReferenced_iff capitalNames smallNames {} (-1)
  have hcapital : capitalNames.keys = ["minecraft:Golden_Apple", "minecraft:ΞΙΦΟΣ"] := by
    decide +kernel
  have hsmall : smallNames.keys = ["minecraft:golden_apple", "minecraft:ξιφος"] := by
    decide +kernel
  have hlower : ∀ i ∈ capitalNames.keys, Text.lowercase i ∈ smallNames.keys := by
    rw [hcapital, hsmall]
    decide +kernel
  -- No internal item has an infix, so each takes its own identifier.
  have hplain : ∀ i ∈ capitalNames.keys, Identifier.withoutItemInfixes i = i := by
    rw [hcapital]
    decide +kernel
  have hown : ∀ {x i}, ConfirmedAs capitalNames smallNames x i → i = x := fun hi =>
    (hplain _ hi.internal).symm.trans hi.name
  have hlisted : ∀ {i l}, capitalNames.get? i = some l →
      ⟨i, l⟩ ∈ crossReferenced capitalNames smallNames {} (-1) := by
    intro i l hl
    have hi : i ∈ capitalNames.keys := Index.mem_keys_iff.2 ⟨l, hl⟩
    refine (hmem i l).2 (.inl ⟨i, ⟨hi, hlower i hi, hplain i hi⟩, ?_, hl⟩)
    intro j hj
    obtain rfl := hown hj
    exact String.le_refl j
  have hforeign : "minecraft:golden_apple" ∉ capitalNames.keys := by
    simp [hcapital]
  refine ⟨hlisted (by decide +kernel), hlisted (by decide +kernel), (hmem _ _).2 (.inr ?_)⟩
  refine ⟨?_, by decide +kernel, by decide +kernel, hforeign, rfl⟩
  rintro ⟨i, hi⟩
  exact hforeign (hown hi ▸ hi.internal)

end RegistryTables.Items
