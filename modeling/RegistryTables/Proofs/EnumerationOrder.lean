import RegistryTables.Generate
import RegistryTables.Proofs.BlockList
import RegistryTables.Proofs.ItemList
import RegistryTables.Proofs.SoundNames
import RegistryTables.Proofs.TagResolution

/-
  The order in which the data of a run is enumerated.

  A table comes in some order, and so do the members of a tag and the names of sounds.
  A run looks entries up, or sorts them. Most of what it sorts has different keys, so
  one order is left. The items of the cross-referenced strategy may share keys: the
  confirmed ones are in the order of the internal table's identifiers by then, and
  those known by name only come behind them and differ from each other.

  What is proved:
    1. `Items.resolve_eq_of_perm`, `Blocks.resolve_eq_of_perm` — the item list and the
       block list, or its clash, do not depend on the order of any table.
    2. `TagIndex.build_eq_of_same` — nor do the tags built from a table, or the reports
       on the way, on the order of the table or of the members of a tag.
    3. `generate_eq_of_sameData` — so no order reaches a run's result or its events.
-/
namespace RegistryTables

/-! ## Tables -/

namespace Index

variable {κ α : Type} [DecidableEq κ] {m n : Index κ α}

theorem contains_eq_of_perm (h : m.keys.Perm n.keys) (k : κ) : m.contains k = n.contains k := by
  rw [Bool.eq_iff_iff, contains_iff, contains_iff]
  exact h.mem_iff

theorem sorted_eq_of_perm [LE κ] [DecidableLE κ] [Std.IsLinearOrder κ]
    (h : m.entries.Perm n.entries) : m.sorted = n.sorted :=
  sortOn_eq_of_perm h m.keys_nodup

end Index

/-! ## Items -/

namespace Items

variable {internalItems internalItems' externalItems externalItems' externalBlocks externalBlocks' :
  IdTable}

theorem tidy_eq_of_perm (front : List TypeEntry) {es fs : List TypeEntry} (h : es.Perm fs)
    (hnodup : (es.map TypeEntry.identifier).Nodup) : tidy (front ++ es) = tidy (front ++ fs) := by
  rw [tidy, tidy, sortOn_append_eq_of_perm front h hnodup]

theorem direct_eq_of_perm (h : externalItems.entries.Perm externalItems'.entries) :
    direct externalItems = direct externalItems' := by
  apply tidy_eq_of_perm [] (h.map _)
  rw [List.map_map]
  exact externalItems.keys_nodup

theorem confirmed_eq_of_perm (hinternal : internalItems.entries.Perm internalItems'.entries)
    (hexternal : externalItems.keys.Perm externalItems'.keys) :
    confirmed internalItems externalItems = confirmed internalItems' externalItems' := by
  simp only [confirmed, Index.sorted_eq_of_perm hinternal, Index.contains_eq_of_perm hexternal]

theorem nameOnly_perm (hinternal : internalItems.keys.Perm internalItems'.keys)
    (hexternal : externalItems.keys.Perm externalItems'.keys)
    (hblocks : externalBlocks.keys.Perm externalBlocks'.keys) (sentinel : LegacyId) :
    (nameOnly internalItems externalItems externalBlocks sentinel).Perm
      (nameOnly internalItems' externalItems' externalBlocks' sentinel) := by
  simp only [nameOnly, Index.contains_eq_of_perm hblocks, Index.contains_eq_of_perm hinternal]
  exact (hexternal.filter _).map _

/-- Of the external tables only the keys count. -/
theorem crossReferenced_eq_of_perm
    (hinternal : internalItems.entries.Perm internalItems'.entries)
    (hexternal : externalItems.keys.Perm externalItems'.keys)
    (hblocks : externalBlocks.keys.Perm externalBlocks'.keys) (sentinel : LegacyId) :
    crossReferenced internalItems externalItems externalBlocks sentinel =
      crossReferenced internalItems' externalItems' externalBlocks' sentinel := by
  rw [crossReferenced, crossReferenced, confirmed_eq_of_perm hinternal hexternal]
  exact tidy_eq_of_perm _ (nameOnly_perm (hinternal.map Prod.fst) hexternal hblocks sentinel)
    (nodup_nameOnly _ _ _ sentinel)

theorem resolve_eq_of_perm (hinternal : internalItems.entries.Perm internalItems'.entries)
    (hexternal : externalItems.entries.Perm externalItems'.entries)
    (hblocks : externalBlocks.entries.Perm externalBlocks'.entries)
    (strategy : Strategy) (sentinel : LegacyId) :
    resolve strategy internalItems externalItems externalBlocks sentinel =
      resolve strategy internalItems' externalItems' externalBlocks' sentinel := by
  have hcross := crossReferenced_eq_of_perm hinternal (hexternal.map Prod.fst)
    (hblocks.map Prod.fst) sentinel
  simp only [resolve, hcross, direct_eq_of_perm hexternal]

theorem namespaceIds_eq_of_perm {palette palette' : IdTable}
    (h : palette.entries.Perm palette'.entries) : namespaceIds palette = namespaceIds palette' :=
  sortOn_eq_of_perm ((h.map Prod.fst).filter _) (nodup_plain palette)

end Items

/-! ## Blocks -/

namespace Blocks

variable {palette palette' legacyBlocks legacyBlocks' internalItems internalItems' : IdTable}

theorem candidates_perm (hpalette : palette.entries.Perm palette'.entries)
    (hlegacy : legacyBlocks.keys.Perm legacyBlocks'.keys)
    (hinternal : internalItems.keys.Perm internalItems'.keys) :
    (candidates palette legacyBlocks internalItems).Perm
      (candidates palette' legacyBlocks' internalItems') := by
  simp only [candidates, Index.contains_eq_of_perm hlegacy, Index.contains_eq_of_perm hinternal]
  exact (hpalette.filter _).map _

theorem survivors_eq_of_perm {blocks blocks' : List Block} (h : blocks.Perm blocks')
    (hnodup : (blocks.map Block.identifier).Nodup) : survivors blocks = survivors blocks' := by
  have hviews : ∀ id,
      id ∈ (blocks.filter (·.isItemView)).map (fun b => Identifier.stripItemView b.identifier) ↔
      id ∈ (blocks'.filter (·.isItemView)).map (fun b => Identifier.stripItemView b.identifier) :=
    fun id => ((h.filter _).map _).mem_iff
  simp only [survivors, hviews]
  exact sortOn_eq_of_perm (h.filter _) (hnodup.sublist (List.filter_sublist.map Block.identifier))

/-- Of the tables that know blocks only the keys count. -/
theorem resolve_eq_of_keys_perm (hpalette : palette.entries.Perm palette'.entries)
    (hlegacy : legacyBlocks.keys.Perm legacyBlocks'.keys)
    (hinternal : internalItems.keys.Perm internalItems'.keys) :
    resolve palette legacyBlocks internalItems = resolve palette' legacyBlocks' internalItems' := by
  have hperm := candidates_perm hpalette hlegacy hinternal
  have hsize : palette.size = palette'.size := hpalette.length_eq
  simp only [resolve, hperm.length_eq, hsize, survivors_eq_of_perm hperm nodup_candidates]

theorem resolve_eq_of_perm (hpalette : palette.entries.Perm palette'.entries)
    (hlegacy : legacyBlocks.entries.Perm legacyBlocks'.entries)
    (hinternal : internalItems.entries.Perm internalItems'.entries) :
    resolve palette legacyBlocks internalItems = resolve palette' legacyBlocks' internalItems' :=
  resolve_eq_of_keys_perm hpalette (hlegacy.map Prod.fst) (hinternal.map Prod.fst)

end Blocks

/-! ## Tags -/

/-- The tables have the same tags with the same members, in whatever order. -/
structure MemberTable.Same (m n : MemberTable) : Prop where
  names : m.keys.Perm n.keys
  members : ∀ name ms ns, m.get? name = some ms → n.get? name = some ns → ∀ x, x ∈ ms ↔ x ∈ ns

/-- Tables are the same if the names and the members of each name are permuted. -/
theorem MemberTable.Same.of_perm {m n : MemberTable} (hnames : m.keys.Perm n.keys)
    (hmembers : ∀ a ∈ m.entries, ∀ b ∈ n.entries, a.1 = b.1 → a.2.Perm b.2) : m.Same n := by
  refine ⟨hnames, ?_⟩
  intro name ms ns hms hns x
  rw [Index.get?_eq_some_iff] at hms hns
  exact (hmembers _ hms _ hns rfl).mem_iff

theorem MemberTable.Same.refl (m : MemberTable) : m.Same m := by
  refine ⟨List.Perm.refl _, ?_⟩
  intro name ms ns hms hns x
  rw [Option.some.inj (hms.symm.trans hns)]

theorem MemberTable.Same.symm {m n : MemberTable} (h : m.Same n) : n.Same m :=
  ⟨h.names.symm, fun name ms ns hm hn x => (h.members name ns ms hn hm x).symm⟩

namespace TagIndex

/-- An entry of a table of tags, with each member once and in order. -/
def tidyMembers (e : String × List Identifier) : String × List Identifier := (e.1, distinct e.2)

theorem resolve_distinct (name : String) (members : List Identifier) (types : Registry) :
    Tag.resolve name (distinct members) types = Tag.resolve name members types :=
  Tag.resolve_eq_of_mem_iff fun _ => mem_distinct

/-- A tag is resolved alike whatever the order of its members, and however often they occur. -/
theorem registerAll_tidyMembers (types : Registry) : ∀ (source : List (String × List Identifier))
    (r : TagIndex), registerAll types r (source.map tidyMembers) = registerAll types r source
  | [], _ => rfl
  | (name, members) :: rest, r => by
    simp only [List.map_cons, tidyMembers, registerAll, resolve_distinct]
    split
    · rfl
    · congr 1
      funext _
      exact registerAll_tidyMembers types rest _

variable {m n : MemberTable}

theorem mem_tidied_of_same (h : m.Same n) {e : String × List Identifier}
    (he : e ∈ m.entries.map tidyMembers) : e ∈ n.entries.map tidyMembers := by
  obtain ⟨⟨name, ms⟩, hm, rfl⟩ := List.mem_map.1 he
  have hget := Index.get?_eq_some_iff.2 hm
  obtain ⟨ns, hns⟩ := Index.mem_keys_iff.1 (h.names.subset (Index.mem_keys_iff.2 ⟨ms, hget⟩))
  refine List.mem_map.2 ⟨(name, ns), Index.get?_eq_some_iff.1 hns, ?_⟩
  rw [tidyMembers, tidyMembers, distinct_eq_of_mem_iff (h.members name ms ns hget hns)]

theorem nodup_tidied (m : MemberTable) : ((m.entries.map tidyMembers).map Prod.fst).Nodup := by
  rw [List.map_map]
  exact m.keys_nodup

/-- Sorted, and with each member once and in order, tables of the same tags are equal. -/
theorem sorted_tidied_eq_of_same (h : m.Same n) :
    m.sorted.map tidyMembers = n.sorted.map tidyMembers := by
  have hperm : (m.entries.map tidyMembers).Perm (n.entries.map tidyMembers) :=
    (List.perm_ext_iff_of_nodup (nodup_tidied m).of_map (nodup_tidied n).of_map).2
      fun _ => ⟨mem_tidied_of_same h, mem_tidied_of_same h.symm⟩
  calc m.sorted.map tidyMembers = sortOn Prod.fst (m.entries.map tidyMembers) :=
        map_sortOn tidyMembers Prod.fst m.entries
    _ = sortOn Prod.fst (n.entries.map tidyMembers) := sortOn_eq_of_perm hperm (nodup_tidied m)
    _ = n.sorted.map tidyMembers := (map_sortOn tidyMembers Prod.fst n.entries).symm

theorem build_eq_of_same (h : m.Same n) (types : Registry) :
    build m.entries types = build n.entries types := by
  calc build m.entries types = registerAll types empty (m.sorted.map tidyMembers) :=
        (registerAll_tidyMembers types m.sorted empty).symm
    _ = registerAll types empty (n.sorted.map tidyMembers) := by rw [sorted_tidied_eq_of_same h]
    _ = build n.entries types := registerAll_tidyMembers types n.sorted empty

end TagIndex

/-! ## A run -/

/-- The same data, enumerated in whatever order. -/
structure Sources.SameData (s t : Sources) : Prop where
  itemPalette : s.itemPalette.entries.Perm t.itemPalette.entries
  externalLegacyBlockIds : s.externalLegacyBlockIds.entries.Perm t.externalLegacyBlockIds.entries
  externalLegacyItemIds : s.externalLegacyItemIds.entries.Perm t.externalLegacyItemIds.entries
  internalLegacyItemIds : s.internalLegacyItemIds.entries.Perm t.internalLegacyItemIds.entries
  blockTags : MemberTable.Same s.blockTags t.blockTags
  itemTags : MemberTable.Same s.itemTags t.itemTags
  soundNames : ∀ x, x ∈ s.soundNames ↔ x ∈ t.soundNames
  musicNames : ∀ x, x ∈ s.musicNames ↔ x ∈ t.musicNames

variable {s t : Sources}

theorem Sounds.merge_eq_of_mem_iff {effects effects' music music' : List String}
    (heffects : ∀ x, x ∈ effects ↔ x ∈ effects') (hmusic : ∀ x, x ∈ music ↔ x ∈ music') :
    merge effects music = merge effects' music' :=
  merge_eq_iff.2 fun x => or_congr (heffects x) (hmusic x)

theorem buildTags_eq_of_same (hblock : MemberTable.Same s.blockTags t.blockTags)
    (hitem : MemberTable.Same s.itemTags t.itemTags) (types : Types) :
    buildTags s types = buildTags t types := by
  simp only [buildTags, TagIndex.build_eq_of_same hitem, TagIndex.build_eq_of_same hblock]

theorem Sources.SameData.buildTags_eq (h : s.SameData t) (types : Types) :
    buildTags s types = buildTags t types := buildTags_eq_of_same h.blockTags h.itemTags types

/-- The outcome of a run does not depend on the order in which its data is enumerated:
neither the tables or the failure, nor the events and their order. -/
theorem generate_eq_of_sameData (h : s.SameData t) (c : Config) : generate s c = generate t c := by
  have hsounds := Sounds.merge_eq_of_mem_iff h.soundNames h.musicNames
  have hitems := Items.resolve_eq_of_perm h.internalLegacyItemIds h.externalLegacyItemIds
    h.externalLegacyBlockIds c.strategy c.sentinel
  have hblocks := Blocks.resolve_eq_of_perm h.itemPalette h.externalLegacyBlockIds
    h.internalLegacyItemIds
  have hnamespace := Items.namespaceIds_eq_of_perm h.itemPalette
  simp only [generate, hsounds, hitems, hblocks, hnamespace, h.buildTags_eq]

/-- Sources in which two internal items take one name, and one block has two entries. -/
def lampAndOil : Sources where
  itemPalette := ⟨[("minecraft:item.lamp", 7), ("minecraft:lamp", 8)], by decide⟩
  externalLegacyBlockIds := ⟨[("minecraft:lamp", 5), ("minecraft:item.lamp", 6)], by decide⟩
  externalLegacyItemIds :=
    ⟨[("minecraft:item.lamp", 1), ("minecraft:lamp", 2), ("minecraft:oil", 3)], by decide⟩
  internalLegacyItemIds := ⟨[("minecraft:item.lamp", 10), ("minecraft:lamp", 11)], by decide⟩
  blockTags := ⟨[("lights", ["minecraft:lamp", "minecraft:candle"]), ("lamps", [])], by decide⟩
  itemTags := ⟨[("fuel", ["minecraft:oil"]), ("lights", ["minecraft:lamp"])], by decide⟩
  soundNames := ["lamp.off", "lamp.on"]
  musicNames := ["lamp.on", "dusk"]

/-- The same sources, with every table, every tag and every list of names the other way round. -/
def lampAndOilReversed : Sources where
  itemPalette := ⟨[("minecraft:lamp", 8), ("minecraft:item.lamp", 7)], by decide⟩
  externalLegacyBlockIds := ⟨[("minecraft:item.lamp", 6), ("minecraft:lamp", 5)], by decide⟩
  externalLegacyItemIds :=
    ⟨[("minecraft:oil", 3), ("minecraft:lamp", 2), ("minecraft:item.lamp", 1)], by decide⟩
  internalLegacyItemIds := ⟨[("minecraft:lamp", 11), ("minecraft:item.lamp", 10)], by decide⟩
  blockTags := ⟨[("lamps", []), ("lights", ["minecraft:candle", "minecraft:lamp"])], by decide⟩
  itemTags := ⟨[("lights", ["minecraft:lamp"]), ("fuel", ["minecraft:oil"])], by decide⟩
  soundNames := ["lamp.on", "lamp.off"]
  musicNames := ["dusk", "lamp.on"]

/-- The small run has the same outcome either way round, although in one order the item
view of the lamp comes first, and in the other its plain entry. -/
theorem generate_eq_of_sameData_lampAndOil :
    lampAndOil.SameData lampAndOilReversed ∧
    lampAndOil.itemPalette.keys = ["minecraft:item.lamp", "minecraft:lamp"] ∧
    lampAndOilReversed.itemPalette.keys = ["minecraft:lamp", "minecraft:item.lamp"] ∧
    generate lampAndOil ⟨"data", .crossReferenced, 255⟩ =
      generate lampAndOilReversed ⟨"data", .crossReferenced, 255⟩ := by
  have hsounds : lampAndOil.soundNames.Perm lampAndOilReversed.soundNames := by decide
  have hmusic : lampAndOil.musicNames.Perm lampAndOilReversed.musicNames := by decide
  have hsame : lampAndOil.SameData lampAndOilReversed :=
    ⟨by decide, by decide, by decide, by decide, .of_perm (by decide) (by decide),
      .of_perm (by decide) (by decide), fun _ => hsounds.mem_iff, fun _ => hmusic.mem_iff⟩
  exact ⟨hsame, rfl, rfl, generate_eq_of_sameData hsame _⟩

end RegistryTables
