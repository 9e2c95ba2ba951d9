import RegistryTables.Proofs.EnumerationOrder
import RegistryTables.Proofs.RunFailure

/-
  What a run reads of its data.

  Three tables of ids serve both the item list and the block list. The block list asks
  two of them for keys only; which of their numbers reach the item list depends on the
  strategy. The direct one takes the numbers of the external items, the cross-referenced
  one those of the internal items and the configured one. No other number is read.

  Tags and sounds are made from what is registered by then, so nothing that is registered
  depends on them.

  What is proved:
    1. `Sources.AgreeFor.items_eq`, `Sources.AgreeFor.blocks_eq` — sources that agree on
       what a strategy reads of the tables of ids give the same two lists, with the same
       reports.
    2. `registered_generate` — what a run registers, or the clash it fails with, is a
       function of the two lists and the palette.
    3. `generate_eq_of_agreeFor` — so it is the same for such sources, and so is the
       whole run if they have the same tags and sounds.
-/
namespace RegistryTables

/-! ## Agreement -/

namespace Index

variable {κ α : Type} {m n : Index κ α}

/-- The tables have the same keys, whatever they have under them. -/
def SameKeys (m n : Index κ α) : Prop := ∀ k, k ∈ m.keys ↔ k ∈ n.keys

theorem SameKeys.perm (h : m.SameKeys n) : m.keys.Perm n.keys :=
  (List.perm_ext_iff_of_nodup m.keys_nodup n.keys_nodup).2 h

end Index

namespace Sources

/-- The sources agree on what the direct strategy reads of the tables of ids. -/
structure AgreeDirect (s t : Sources) : Prop where
  itemPalette : s.itemPalette.entries.Perm t.itemPalette.entries
  externalLegacyItemIds : s.externalLegacyItemIds.entries.Perm t.externalLegacyItemIds.entries
  externalLegacyBlockIds : s.externalLegacyBlockIds.SameKeys t.externalLegacyBlockIds
  internalLegacyItemIds : s.internalLegacyItemIds.SameKeys t.internalLegacyItemIds

/-- The sources agree on what the cross-referenced strategy reads of the tables of ids. -/
structure AgreeCrossReferenced (s t : Sources) : Prop where
  itemPalette : s.itemPalette.entries.Perm t.itemPalette.entries
  internalLegacyItemIds : s.internalLegacyItemIds.entries.Perm t.internalLegacyItemIds.entries
  externalLegacyItemIds : s.externalLegacyItemIds.SameKeys t.externalLegacyItemIds
  externalLegacyBlockIds : s.externalLegacyBlockIds.SameKeys t.externalLegacyBlockIds

/-- The runs agree on what their strategy reads of the tables of ids and of the
configuration. -/
inductive AgreeFor (s : Sources) (c : Config) (t : Sources) (d : Config) : Prop where
  | direct (hc : c.strategy = .direct) (hd : d.strategy = .direct) (h : s.AgreeDirect t)
  | crossReferenced (hc : c.strategy = .crossReferenced) (hd : d.strategy = .crossReferenced)
      (hsentinel : c.sentinel = d.sentinel) (h : s.AgreeCrossReferenced t)

/-- The sources have the same tags with the same members, and the same names of sounds. -/
structure SameTagsAndSounds (s t : Sources) : Prop where
  blockTags : MemberTable.Same s.blockTags t.blockTags
  itemTags : MemberTable.Same s.itemTags t.itemTags
  soundNames : ∀ x, x ∈ s.soundNames ↔ x ∈ t.soundNames
  musicNames : ∀ x, x ∈ s.musicNames ↔ x ∈ t.musicNames

variable {s t : Sources} {c d : Config}

theorem AgreeFor.itemPalette (h : s.AgreeFor c t d) :
    s.itemPalette.entries.Perm t.itemPalette.entries := by
  cases h with
  | direct _ _ h => exact h.itemPalette
  | crossReferenced _ _ _ h => exact h.itemPalette

theorem AgreeFor.items_eq (h : s.AgreeFor c t d) : s.items c = t.items d := by
  cases h with
  | direct hc hd h =>
    simp only [items, Items.resolve, hc, hd, Items.direct_eq_of_perm h.externalLegacyItemIds]
  | crossReferenced hc hd hsentinel h =>
    have hitems := Items.crossReferenced_eq_of_perm h.internalLegacyItemIds
      h.externalLegacyItemIds.perm h.externalLegacyBlockIds.perm d.sentinel
    simp only [items, Items.resolve, hc, hd, hsentinel, hitems]

theorem AgreeFor.blocks_eq (h : s.AgreeFor c t d) : s.blocks = t.blocks := by
  cases h with
  | direct _ _ h =>
    exact Blocks.resolve_eq_of_keys_perm h.itemPalette h.externalLegacyBlockIds.perm
      h.internalLegacyItemIds.perm
  | crossReferenced _ _ _ h =>
    exact Blocks.resolve_eq_of_keys_perm h.itemPalette h.externalLegacyBlockIds.perm
      (h.internalLegacyItemIds.map Prod.fst)

end Sources

/-! ## What a run registers -/

/-- The tables of a run without its tags and sounds. -/
structure Registered where
  items : List TypeEntry
  blocks : List Block
  itemNamespaceIds : List Identifier
  types : Types

def Tables.registered (t : Tables) : Registered := ⟨t.items, t.blocks, t.itemNamespaceIds, t.types⟩

/-- What is registered of an item list and a block list. -/
def Registered.ofLists (palette : IdTable) (items : List TypeEntry) (blocks : List Block) :
    Registered :=
  ⟨items, blocks, Items.namespaceIds palette,
    ((Types.empty.registerItems items).value.registerBlocks (blocks.map Block.entry)).value⟩

theorem registered_generate (s : Sources) (c : Config) :
    (generate s c).value.map Tables.registered =
      (s.blocks.value.mapError RunError.resolvingBlocks).map
        (Registered.ofLists s.itemPalette (s.items c).value) := by
  cases hblocks : s.blocks.value with
  | error conflict =>
    rw [generate_of_conflict hblocks]
    rfl
  | ok blocks =>
    obtain ⟨t, ht⟩ := exists_tables_of_blocks hblocks c
    have hcourse := course_of_ok ht
    obtain rfl := Except.ok.inj (hblocks.symm.trans hcourse.blocks)
    rw [ht]
    show Except.ok t.registered = Except.ok _
    rw [Registered.ofLists, hcourse.items, hcourse.itemNamespaceIds, hcourse.types]
    rfl

/-! ## Main result -/

/-- Let two runs agree on what their strategy reads: on the palette, and for the direct
strategy on the external items and the keys of the other two tables, for the
cross-referenced one on the internal items, the keys of the other two tables and the
number of items known by name only. Then both fail with one clash, or both have the same
items, blocks, identifiers of the palette and registered types, whatever their tags and
sounds. If they have the same tags and sounds too, all else is equal, and every report. -/
theorem generate_eq_of_agreeFor {s t : Sources} {c d : Config} (h : s.AgreeFor c t d) :
    (generate s c).value.map Tables.registered = (generate t d).value.map Tables.registered ∧
    (s.SameTagsAndSounds t → generate s c = generate t d) := by
  have hitems := h.items_eq
  have hblocks := h.blocks_eq
  have hnamespace := Items.namespaceIds_eq_of_perm h.itemPalette
  refine ⟨?_, ?_⟩
  · -- what is registered
    have hlists : ∀ items blocks, Registered.ofLists s.itemPalette items blocks =
        Registered.ofLists t.itemPalette items blocks := by
      intro items blocks
      rw [Registered.ofLists, Registered.ofLists, hnamespace]
    rw [registered_generate, registered_generate, hitems, hblocks]
    congr 1
    funext blocks
    exact hlists _ blocks
  · -- the whole run
    intro hsame
    have hsounds := Sounds.merge_eq_of_mem_iff hsame.soundNames hsame.musicNames
    have htags := buildTags_eq_of_same hsame.blockTags hsame.itemTags
    rw [Sources.items, Sources.items] at hitems
    rw [Sources.blocks, Sources.blocks] at hblocks
    simp only [generate, hsounds, hitems, hblocks, hnamespace, htags]

/-- The sources with the lamp and the oil, with other numbers wherever the direct strategy
reads none. -/
def lampAndOilForDirect : Sources :=
  { lampAndOil with
    externalLegacyBlockIds :=
      ⟨[("minecraft:item.lamp", 60), ("minecraft:lamp", 50)], by decide⟩
    internalLegacyItemIds :=
      ⟨[("minecraft:lamp", 110), ("minecraft:item.lamp", 100)], by decide⟩ }

/-- The same sources, with other numbers wherever the cross-referenced strategy reads none. -/
def lampAndOilForCrossReferenced : Sources :=
  { lampAndOil with
    externalLegacyBlockIds :=
      ⟨[("minecraft:item.lamp", 60), ("minecraft:lamp", 50)], by decide⟩
    externalLegacyItemIds :=
      ⟨[("minecraft:oil", 30), ("minecraft:lamp", 20), ("minecraft:item.lamp", 10)], by decide⟩ }

/-- The same sources, without tags and sounds. -/
def lampAndOilInSilence : Sources :=
  { lampAndOil with blockTags := .empty, itemTags := .empty, soundNames := [], musicNames := [] }

/-- With other numbers in the tables of which a strategy reads the keys, and for the direct
strategy with another number of items known by name, the small run is the same; without
tags and sounds, it still registers the same. -/
theorem generate_eq_of_agreeFor_lampAndOil :
    generate lampAndOil ⟨"data", .direct, 255⟩ =
      generate lampAndOilForDirect ⟨"elsewhere", .direct, -1⟩ ∧
    generate lampAndOil ⟨"data", .crossReferenced, 255⟩ =
      generate lampAndOilForCrossReferenced ⟨"elsewhere", .crossReferenced, 255⟩ ∧
    (generate lampAndOil ⟨"data", .crossReferenced, 255⟩).value.map Tables.registered =
      (generate lampAndOilInSilence ⟨"data", .crossReferenced, 255⟩).value.map
        Tables.registered := by
  have hblockKeys : lampAndOil.externalLegacyBlockIds.keys.Perm
      lampAndOilForDirect.externalLegacyBlockIds.keys := by decide
  have hinternalKeys : lampAndOil.internalLegacyItemIds.keys.Perm
      lampAndOilForDirect.internalLegacyItemIds.keys := by decide
  have hexternalKeys : lampAndOil.externalLegacyItemIds.keys.Perm
      lampAndOilForCrossReferenced.externalLegacyItemIds.keys := by decide
  have hdirect : lampAndOil.AgreeFor ⟨"data", .direct, 255⟩ lampAndOilForDirect
      ⟨"elsewhere", .direct, -1⟩ :=
    .direct rfl rfl
      ⟨.refl _, .refl _, fun _ => hblockKeys.mem_iff, fun _ => hinternalKeys.mem_iff⟩
  have hcross : lampAndOil.AgreeFor ⟨"data", .crossReferenced, 255⟩ lampAndOilForCrossReferenced
      ⟨"elsewhere", .crossReferenced, 255⟩ :=
    .crossReferenced rfl rfl rfl
      ⟨.refl _, .refl _, fun _ => hexternalKeys.mem_iff, fun _ => hblockKeys.mem_iff⟩
  have hsilent : lampAndOil.AgreeFor ⟨"data", .crossReferenced, 255⟩ lampAndOilInSilence
      ⟨"data", .crossReferenced, 255⟩ :=
    .crossReferenced rfl rfl rfl ⟨.refl _, .refl _, fun _ => Iff.rfl, fun _ => Iff.rfl⟩
  exact ⟨(generate_eq_of_agreeFor hdirect).2 ⟨.refl _, .refl _, fun _ => Iff.rfl, fun _ => Iff.rfl⟩,
    (generate_eq_of_agreeFor hcross).2 ⟨.refl _, .refl _, fun _ => Iff.rfl, fun _ => Iff.rfl⟩,
    (generate_eq_of_agreeFor hsilent).1⟩

end RegistryTables
