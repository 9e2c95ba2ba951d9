import RegistryTables.Proofs.ItemList
import RegistryTables.Proofs.RegisteredEntries
import RegistryTables.Proofs.RunCourse
import Mathlib.Data.List.Permutation

/-
  The two registries of a run that succeeds.

  A run registers the item list and then the block list, so a lookup finds the first
  entry of its key in one of the lists, or in both of them in this order.

  What is proved:
    1. `registries_of_run` — every lookup and every size of both registries, and the
       registrations that were discarded, in terms of the two lists.
    2. `known_blocks_of_run` — no entry of the palette that a table knows is missing
       from the registries, although the block list does not have an entry for each.
-/
namespace RegistryTables

/-! ## A small run -/

/-- The sources of a small run: a stick that is an item, a block and an item view of the
block, and a stone that is a block. -/
def stickAndStone : Sources :=
  { Sources.empty with
    itemPalette := .ofList
      [("minecraft:item.stick", 2), ("minecraft:stick", 3), ("minecraft:stone", 1)]
    externalLegacyBlockIds := .ofList [("minecraft:stick", 3), ("minecraft:stone", 1)]
    externalLegacyItemIds := .ofList [("minecraft:stick", 280)]
    internalLegacyItemIds := .ofList [("minecraft:item.stick", 280)] }

/-- The small run succeeds, and of the stick's two entries the item view is left. -/
theorem exists_run_stickAndStone : ∃ t, (generate stickAndStone .preset).value = .ok t ∧
    t.items = [⟨"minecraft:stick", 280⟩] ∧
    t.blocks = [⟨"minecraft:item.stick", 2, true⟩, ⟨"minecraft:stone", 1, false⟩] := by
  have hlists : (generate stickAndStone .preset).value.toOption.map (fun t => (t.items, t.blocks)) =
      some ([⟨"minecraft:stick", 280⟩],
        [⟨"minecraft:item.stick", 2, true⟩, ⟨"minecraft:stone", 1, false⟩]) := by
    cbv
  cases ht : (generate stickAndStone .preset).value with
  | error e =>
    rw [ht] at hlists
    cases hlists
  | ok t =>
    rw [ht] at hlists
    have hpair := Option.some.inj hlists
    exact ⟨t, rfl, congrArg Prod.fst hpair, congrArg Prod.snd hpair⟩

section
variable {s : Sources} {c : Config} {t : Tables}

/-! ## The lists and the registries -/

namespace Course

theorem pairwise_lt_items (h : Course s c t) :
    t.items.Pairwise (fun a b => a.identifier < b.identifier) := by
  rw [← h.items]
  exact Items.pairwise_lt_resolve _ _ _ _ _

theorem nodup_items (h : Course s c t) : (t.items.map TypeEntry.identifier).Nodup :=
  nodup_map_of_pairwise_lt h.pairwise_lt_items

theorem blocks_eq (h : Course s c t) :
    t.blocks = Blocks.survivors (Blocks.candidates s.itemPalette s.externalLegacyBlockIds
      s.internalLegacyItemIds) := (Blocks.resolve_eq_ok_iff.1 h.blocks).1

theorem pairwise_lt_blocks (h : Course s c t) :
    t.blocks.Pairwise (fun a b => a.identifier < b.identifier) :=
  Blocks.pairwise_lt_blockList h.blocks

theorem nodup_registeredAs (h : Course s c t) : (t.blocks.map Block.registeredAs).Nodup :=
  (Blocks.resolve_eq_ok_iff.1 h.blocks).2

theorem palette_get? (h : Course s c t) {b : Block} (hb : b ∈ t.blocks) :
    s.itemPalette.get? b.identifier = some b.legacyId := by
  rw [h.blocks_eq] at hb
  exact (Blocks.mem_candidates.1 (Blocks.mem_survivors.1 hb).1).1

/-- The block registry holds the blocks, the item registry the items and then the blocks. -/
theorem hold (h : Course s c t) :
    t.types.Hold (t.blocks.map Block.entry) (t.items ++ t.blocks.map Block.entry) := by
  rw [← h.types]
  exact (Types.Hold.registerItems t.items Types.hold_empty).registerBlocks _

theorem contains_block_iff (h : Course s c t) {x : Identifier} :
    t.types.block.contains x = true ↔ ∃ b ∈ t.blocks, b.registeredAs = x := by
  rw [h.hold.block.contains_iff, List.map_map]
  exact List.mem_map

/-- The block registry has the very entry of every block: its identifier is no other's. -/
theorem get?_registeredAs (h : Course s c t) {b : Block} (hb : b ∈ t.blocks) :
    (t.types.block.get? b.registeredAs).map Object.toTypeEntry = some b.entry := by
  apply h.hold.block.get?_of_mem _ (List.mem_map_of_mem hb)
  rw [List.map_map]
  exact h.nodup_registeredAs

/-- Of all registrations only shadows are discarded, and those are the shadows of blocks
that stand in the item list. -/
theorem traces_eq (h : Course s c t) :
    RegistryTables.traces (generate s c).events =
      (t.blocks.filter (fun b => b.registeredAs ∈ t.items.map TypeEntry.identifier)).map
        (fun b => .duplicateDiscarded b.registeredAs b.legacyId) := by
  have hitems : (Types.empty.registerItems t.items).events = [] :=
    Types.Hold.registerItems_events t.items Types.hold_empty h.nodup_items
  have hshadows := (Types.Hold.registerItems t.items Types.hold_empty).registerBlocks_events
    (t.blocks.map Block.entry) (by
      rw [List.nil_append, List.map_map]
      exact h.nodup_registeredAs)
  rw [h.traces, hitems, hshadows, List.filter_map, List.map_map]
  apply List.filter_eq_self.2
  intro e he
  obtain ⟨b, -, rfl⟩ := List.mem_map.1 he
  rfl

/-- A block that keeps its place in the block list has the number of the palette. -/
theorem palette_eq_of_kept (h : Course s c t) {id : Identifier} (hid : s.KnowsBlock id)
    (hkept : Identifier.isItemView id = true ∨ ∀ v, s.KnowsBlock v →
      Identifier.isItemView v = true → Identifier.stripItemView v ≠ id)
    {o : Object} (ho : t.types.block.get? (Identifier.withoutItemInfixes id) = some o) :
    s.itemPalette.get? id = some o.legacyId := by
  obtain ⟨b, hb, rfl⟩ := Blocks.survives_iff.1 ⟨hid, hkept⟩
  have hblock : b ∈ t.blocks := by
    rw [h.blocks_eq]
    exact hb
  have hentry := h.get?_registeredAs hblock
  rw [Block.registeredAs, ho] at hentry
  rw [h.palette_get? hblock]
  exact congrArg (Option.map TypeEntry.legacyId) hentry.symm

/-- An identifier is a block's if and only if it is what is left of a known one. -/
theorem contains_block_iff_known (h : Course s c t) {x : Identifier} :
    t.types.block.contains x = true ↔
      ∃ id, s.KnowsBlock id ∧ Identifier.withoutItemInfixes id = x := by
  rw [h.contains_block_iff, h.blocks_eq]
  constructor
  · intro hx
    obtain ⟨b, hb, rfl⟩ := hx
    exact ⟨b.identifier, Blocks.known_of_mem_candidates (Blocks.mem_survivors.1 hb).1, rfl⟩
  · intro hx
    obtain ⟨id, hid, rfl⟩ := hx
    obtain ⟨b, hb, rfl⟩ := Blocks.exists_candidate hid
    obtain ⟨k, hk, hname, -⟩ := Blocks.exists_survivor hb
    exact ⟨k, hk, hname⟩

/-- Every block has a shadow, or an item in its place. -/
theorem contains_item_of_block (h : Course s c t) {x : Identifier}
    (hx : t.types.block.contains x = true) : t.types.item.contains x = true := by
  rw [h.hold.block.contains_iff] at hx
  rw [h.hold.item.contains_iff, List.map_append]
  exact List.mem_append_right _ hx

end Course

/-! ## Main results -/

/-- The registries of a run, in terms of its two lists. The block registry has one entry
for each block. In the item registry an item stands before the shadow of a block, and only
the shadows of blocks that are items by name are discarded. -/
theorem registries_of_run (h : (generate s c).value = .ok t) :
    ((s.items c).value = t.items ∧ s.blocks.value = .ok t.blocks ∧
      t.items.Pairwise (fun a b => a.identifier < b.identifier) ∧
      t.blocks.Pairwise (fun a b => a.identifier < b.identifier)) ∧
    (t.types.block.size = t.blocks.length ∧
      (t.blocks.map Block.registeredAs).Nodup ∧
      (∀ x, t.types.block.contains x = true ↔ ∃ b ∈ t.blocks, b.registeredAs = x) ∧
      ∀ b ∈ t.blocks, s.itemPalette.get? b.identifier = some b.legacyId ∧
        (t.types.block.get? b.registeredAs).map Object.toTypeEntry = some b.entry) ∧
    ((∀ x, (t.types.item.get? x).map Object.toTypeEntry =
        (t.items.find? (fun e => e.identifier = x)).or
          ((t.blocks.find? (fun b => b.registeredAs = x)).map Block.entry)) ∧
      t.types.item.size = t.items.length +
        (t.blocks.filter (fun b => b.registeredAs ∉ t.items.map TypeEntry.identifier)).length) ∧
    (∀ l, (t.types.item.getByLegacyId? l).map Object.toTypeEntry =
        (t.items ++ t.blocks.map Block.entry).find? (fun e => e.legacyId = l) ∧
      (t.types.block.getByLegacyId? l).map Object.toTypeEntry =
        (t.blocks.map Block.entry).find? (fun e => e.legacyId = l)) ∧
    traces (generate s c).events =
      (t.blocks.filter (fun b => b.registeredAs ∈ t.items.map TypeEntry.identifier)).map
        (fun b => .duplicateDiscarded b.registeredAs b.legacyId) := by
  have hcourse := course_of_ok h
  obtain ⟨hblock, hitem⟩ := hcourse.hold
  have hnodup : ((t.blocks.map Block.entry).map TypeEntry.identifier).Nodup := by
    rw [List.map_map]
    exact hcourse.nodup_registeredAs
  refine ⟨⟨hcourse.items, hcourse.blocks, hcourse.pairwise_lt_items, hcourse.pairwise_lt_blocks⟩,
    ⟨?_, hcourse.nodup_registeredAs, fun _ => hcourse.contains_block_iff,
      fun _ hb => ⟨hcourse.palette_get? hb, hcourse.get?_registeredAs hb⟩⟩,
    ⟨?_, ?_⟩, fun l => ⟨hitem.getByLegacyId? l, hblock.getByLegacyId? l⟩, hcourse.traces_eq⟩
  · -- the size of the block registry
    rw [hblock.size_eq, List.toFinset_card_of_nodup hnodup, List.length_map, List.length_map]
  · -- lookups of the item registry
    intro x
    rw [hitem.get?, List.find?_append, List.find?_map]
    rfl
  · -- the size of the item registry
    rw [hitem.size_append hcourse.nodup_items hnodup, List.filter_map, List.length_map]
    rfl

/-- In the small run the stick stays an item with its own number, and the shadow of the
block of its name is discarded. -/
theorem registries_of_run_stickAndStone : ∃ t, (generate stickAndStone .preset).value = .ok t ∧
    t.types.block.size = 2 ∧ t.types.item.size = 2 ∧
    (t.types.item.get? "minecraft:stick").map Object.toTypeEntry =
      some ⟨"minecraft:stick", 280⟩ ∧
    (t.types.item.getByLegacyId? 2).map Object.toTypeEntry = some ⟨"minecraft:stick", 2⟩ ∧
    traces (generate stickAndStone .preset).events = [.duplicateDiscarded "minecraft:stick" 2] := by
  obtain ⟨t, ht, hitems, hblocks⟩ := exists_run_stickAndStone
  obtain ⟨-, ⟨hsize, -⟩, ⟨hget, hitemSize⟩, hlegacy, htraces⟩ := registries_of_run ht
  rw [hblocks] at hsize
  rw [hitems, hblocks] at hitemSize htraces
  refine ⟨t, ht, hsize, hitemSize.trans (by cbv), ?_, ?_, htraces.trans (by cbv)⟩
  · rw [hget, hitems]
    exact congrArg (Option.or · _) (List.find?_cons_of_pos (by decide))
  · rw [(hlegacy 2).1, hitems, hblocks]
    cbv

/-- No known block is lost or invented: the identifiers of the block registry are what is
left of the known identifiers, and all of them are items. Where an item view and the plain
entry of one block are both known, the registry has the number of the item view. -/
theorem known_blocks_of_run (h : (generate s c).value = .ok t) :
    (∀ x, t.types.block.contains x = true ↔
      ∃ id, s.KnowsBlock id ∧ Identifier.withoutItemInfixes id = x) ∧
    ∀ id, s.KnowsBlock id →
      t.types.item.contains (Identifier.withoutItemInfixes id) = true ∧
      ∃ o, t.types.block.get? (Identifier.withoutItemInfixes id) = some o ∧
        (Identifier.isItemView id = true → s.itemPalette.get? id = some o.legacyId) ∧
        (Identifier.isItemView id = false →
          (∀ v, s.KnowsBlock v → Identifier.isItemView v = true →
            Identifier.stripItemView v = id → s.itemPalette.get? v = some o.legacyId) ∧
          ((∀ v, s.KnowsBlock v → Identifier.isItemView v = true →
            Identifier.stripItemView v ≠ id) → s.itemPalette.get? id = some o.legacyId)) := by
  have hcourse := course_of_ok h
  refine ⟨fun x => hcourse.contains_block_iff_known, ?_⟩
  intro id hid
  have hcontains : t.types.block.contains (Identifier.withoutItemInfixes id) = true :=
    hcourse.contains_block_iff_known.2 ⟨id, hid, rfl⟩
  obtain ⟨o, ho⟩ := Index.mem_keys_iff.1 (Index.contains_iff.1 hcontains)
  refine ⟨hcourse.contains_item_of_block hcontains, o, ho, ?_, fun _ => ⟨?_, ?_⟩⟩
  · -- an item view
    intro hview
    exact hcourse.palette_eq_of_kept hid (Or.inl hview) ho
  · -- a plain entry with a view, which is registered under the same identifier
    intro v hv hview hstrip
    subst hstrip
    rw [Identifier.withoutItemInfixes_stripItemView] at ho
    exact hcourse.palette_eq_of_kept hv (Or.inl hview) ho
  · -- a plain entry without a view
    intro hnone
    exact hcourse.palette_eq_of_kept hid (Or.inr hnone) ho

/-- In the small run the plain entry of the stick is dropped, and the registry has the
number of the item view in its place. -/
theorem known_blocks_of_run_stickAndStone : ∃ t, (generate stickAndStone .preset).value = .ok t ∧
    stickAndStone.itemPalette.get? "minecraft:stick" = some 3 ∧
    t.types.item.contains "minecraft:stick" = true ∧
    ∃ o, t.types.block.get? "minecraft:stick" = some o ∧ o.legacyId = 2 := by
  obtain ⟨t, ht, -⟩ := exists_run_stickAndStone
  have hknown : stickAndStone.KnowsBlock "minecraft:item.stick" := by
    refine ⟨?_, Or.inr ?_⟩ <;> decide
  obtain ⟨hitem, o, ho, hview, -⟩ := (known_blocks_of_run ht).2 _ hknown
  have hname : Identifier.withoutItemInfixes "minecraft:item.stick" = "minecraft:stick" := by decide
  rw [hname] at hitem ho
  refine ⟨t, ht, by decide, hitem, o, ho, ?_⟩
  have hnumber := hview (by decide)
  have htwo : stickAndStone.itemPalette.get? "minecraft:item.stick" = some 2 := by decide
  exact Option.some.inj (hnumber.symm.trans htwo)

end

end RegistryTables
