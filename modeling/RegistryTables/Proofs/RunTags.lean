import RegistryTables.Proofs.BuiltTags
import RegistryTables.Proofs.RunFailure
import RegistryTables.Proofs.RunRegistries

/-
  The tags of a run that succeeds.

  A run resolves the tags of both tables after its last registration, each domain's
  against its own registry. So a tag has an object for a member if and only if the
  registry has one in the end, under the name the types are registered with: a name of
  the palette that loses its `item.` is no member's type, unless something else takes
  that name.

  What is proved:
    1. `TagIndex.get?_offerAll_table`, `TagIndex.mem_tagsOf_offerAll_table` — the tags
       of a table are found under their names, and under the members that are
       registered.
    2. `Types.Reachable.registerItems`, `Types.Reachable.registerBlocks` — the
       registries of a run come from registrations only.
    3. `tags_of_run` — the tags, their types, and what is left over, of either domain.
-/
namespace RegistryTables

/-! ## The tags of a table -/

namespace TagIndex

variable {types : Registry} {table : MemberTable}

theorem hasTags_offerAll_table (h : types.Reachable) :
    (empty.offerAll types table.sorted).HasTags types table.entries := by
  have hperm : table.sorted.Perm table.entries := sortOn_perm Prod.fst table.entries
  exact (hasTags_offerAll h ((hperm.map Prod.fst).nodup_iff.2 table.keys_nodup)).of_perm hperm

theorem get?_offerAll_table (h : types.Reachable) (n : String) :
    (empty.offerAll types table.sorted).get? n =
      (table.get? n).map fun members => Tag.resolve n members types := by
  ext t
  simp only [(hasTags_offerAll_table h).get?, Option.map_eq_some_iff, Index.get?_eq_some_iff]

theorem mem_tagsOf_offerAll_table (h : types.Reachable) {id : Identifier} {g : Tag} :
    g ∈ (empty.offerAll types table.sorted).tagsOf id ↔ types.contains id = true ∧
      ∃ name members, table.get? name = some members ∧ id ∈ members ∧
        (empty.offerAll types table.sorted).get? name = some g := by
  simp only [(hasTags_offerAll_table h).tagsOf, get?_offerAll_table h, Option.map_eq_some_iff,
    ← Index.get?_eq_some_iff]
  constructor
  · rintro ⟨name, members, hget, htag, hid, hregistered⟩
    exact ⟨hregistered, name, members, hget, hid, members, hget, htag⟩
  · rintro ⟨hregistered, name, members, hget, hid, members', hget', htag⟩
    obtain rfl : members = members' := Option.some.inj (hget.symm.trans hget')
    exact ⟨name, members, hget, htag, hid, hregistered⟩

end TagIndex

/-! ## The registries that a run fills -/

def Types.Reachable (t : Types) : Prop := ∀ d, (t.get d).Reachable

namespace Types

theorem reachable_empty : empty.Reachable := by
  intro d
  cases d <;> exact Registry.reachable_empty

theorem Reachable.registerItems : ∀ (es : List TypeEntry) {t : Types}, t.Reachable →
    (t.registerItems es).value.Reachable
  | [], _, h => h
  | e :: rest, t, h => by
    have hitem : (t.registerItem e).value.1.Reachable := by
      intro d
      cases d with
      | block => exact h .block
      | item => exact (h .item).register e
    exact Reachable.registerItems rest hitem

theorem Reachable.registerBlocks : ∀ (es : List TypeEntry) {t : Types}, t.Reachable →
    (t.registerBlocks es).value.Reachable
  | [], _, h => h
  | e :: rest, t, h => by
    have hblock : (t.registerBlock e).value.1.Reachable := by
      intro d
      cases d with
      | block => exact (h .block).register e
      | item => exact (h .item).register e
    exact Reachable.registerBlocks rest hblock

end Types

/-! ## A run -/

/-- The table that has the tags of a domain. -/
def Sources.tagTable (s : Sources) : Domain → MemberTable
  | .block => s.blockTags
  | .item => s.itemTags

section
variable {s : Sources} {c : Config} {t : Tables}

namespace Course

theorem reachable (h : Course s c t) : t.types.Reachable := by
  rw [← h.types]
  exact (Types.reachable_empty.registerItems t.items).registerBlocks _

theorem tags_eq (h : Course s c t) (d : Domain) :
    t.tags.get d = TagIndex.empty.offerAll (t.types.get d) (s.tagTable d).sorted := by
  have htags := Except.ok.inj ((buildTags_value s t.types).symm.trans h.tags)
  rw [← htags]
  cases d <;> rfl

theorem contains_item_iff (h : Course s c t) {id : Identifier} :
    t.types.item.contains id = true ↔
      id ∈ t.items.map TypeEntry.identifier ∨ t.types.block.contains id = true := by
  rw [h.hold.item.contains_iff, h.hold.block.contains_iff, List.map_append, List.mem_append]

end Course

/-- The tags of a run, of either domain. An index has a tag for each name of the domain's
table and no other. A tag has exactly the members that the table declares; its types are
the registry's objects of those that are registered in the end, ascending by identifier,
and the others are left over. An identifier that is registered has exactly the tags that
declare it, and any other identifier has none. What is registered as a block is what is
left of a known entry of the palette without its `item.`; as an item, it is the item list
and every block. -/
theorem tags_of_run (h : (generate s c).value = .ok t) (d : Domain) :
    let types := t.types.get d
    let tags := t.tags.get d
    let table := s.tagTable d
    (∀ name, (∃ g, tags.get? name = some g) ↔ name ∈ table.keys) ∧
    (∀ name members, table.get? name = some members → ∃ g, tags.get? name = some g ∧
      g.name = name ∧
      (∀ id, id ∈ g.members ↔ id ∈ members) ∧ g.members.Pairwise (· < ·) ∧
      (∀ o, o ∈ g.types ↔ ∃ id ∈ members, types.get? id = some o) ∧
      g.types.Pairwise (fun o p => o.identifier < p.identifier) ∧
      ∀ id, id ∈ g.unresolved ↔ id ∈ members ∧ types.contains id = false) ∧
    (∀ id, types.contains id = true → ∀ g, g ∈ tags.tagsOf id ↔
      ∃ name members, table.get? name = some members ∧ id ∈ members ∧
        tags.get? name = some g) ∧
    (∀ id, types.contains id = false → tags.tagsOf id = []) ∧
    (∀ id, ((tags.tagsOf id).map Tag.name).Nodup) ∧
    (∀ id, t.types.block.contains id = true ↔
      ∃ known, s.KnowsBlock known ∧ Identifier.withoutItemInfixes known = id) ∧
    ∀ id, t.types.item.contains id = true ↔
      id ∈ t.items.map TypeEntry.identifier ∨ t.types.block.contains id = true := by
  intro types tags table
  have hcourse := course_of_ok h
  have hreach : types.Reachable := hcourse.reachable d
  have htags : tags = TagIndex.empty.offerAll types table.sorted := hcourse.tags_eq d
  have hget : ∀ name, tags.get? name =
      (table.get? name).map fun members => Tag.resolve name members types := by
    intro name
    rw [htags, TagIndex.get?_offerAll_table hreach]
  refine ⟨?_, ?_, ?_, ?_, ?_, fun _ => hcourse.contains_block_iff_known,
    fun _ => hcourse.contains_item_iff⟩
  · -- the names
    intro name
    rw [hget, ← Option.isSome_iff_exists, Option.isSome_map, Option.isSome_iff_exists,
      Index.mem_keys_iff]
  · -- the tag of a name
    intro name members hmembers
    refine ⟨Tag.resolve name members types, ?_, rfl, fun _ => Tag.mem_members_resolve,
      Tag.pairwise_lt_members_resolve, fun _ => Tag.mem_types_resolve,
      Tag.pairwise_lt_types_resolve hreach, fun _ => Tag.mem_unresolved_resolve hreach⟩
    rw [hget, hmembers]
    rfl
  · -- the tags of an identifier that is registered
    intro id hid g
    rw [htags, TagIndex.mem_tagsOf_offerAll_table hreach, and_iff_right hid]
  · -- the tags of any other identifier
    intro id hid
    rw [htags, List.eq_nil_iff_forall_not_mem]
    intro g hg
    have hregistered := ((TagIndex.mem_tagsOf_offerAll_table hreach).1 hg).1
    rw [hid] at hregistered
    cases hregistered
  · -- no two tags of an identifier bear one name
    intro id
    rw [htags]
    exact (TagIndex.inStep_offerAll hreach _).nodup_tagsOf id

/-- Sources of a run with tags: a stick whose identifier loses its `item.`, and a torch
whose identifier loses one and is left with another. -/
def stickAndTorch : Sources :=
  { Sources.empty with
    itemPalette := ⟨[("minecraft:item.stick", 2), ("mod:iitem.tem.torch", 4)], by decide⟩
    externalLegacyBlockIds :=
      ⟨[("minecraft:item.stick", 3), ("mod:iitem.tem.torch", 4)], by decide⟩
    blockTags :=
      ⟨[("minecraft:wooden", ["minecraft:stick", "mod:item.torch", "minecraft:item.stick"]),
        ("minecraft:bare", ["minecraft:stick"])], by decide⟩
    itemTags := ⟨[("minecraft:tools", ["minecraft:stick"])], by decide⟩ }

/-- In the run, something is registered as `mod:item.torch` and nothing as
`minecraft:item.stick`, so of two members with an `item.` one has a type and one is left
over. The stick is an item for being a block. -/
theorem tags_of_run_stickAndTorch : ∃ t g f, (generate stickAndTorch .preset).value = .ok t ∧
    t.tags.block.get? "minecraft:wooden" = some g ∧
    "minecraft:item.stick" ∈ g.unresolved ∧ "mod:item.torch" ∉ g.unresolved ∧
    t.tags.block.tagsOf "minecraft:item.stick" = [] ∧
    g ∈ t.tags.block.tagsOf "mod:item.torch" ∧
    t.tags.item.get? "minecraft:tools" = some f ∧ "minecraft:stick" ∉ f.unresolved := by
  have hblocks : stickAndTorch.blocks.value =
      .ok [⟨"minecraft:item.stick", 2, true⟩, ⟨"mod:iitem.tem.torch", 4, false⟩] := by cbv
  obtain ⟨t, ht⟩ := exists_tables_of_blocks hblocks .preset
  obtain ⟨-, hnamed, htagged, hbare, -, hblock, hitem⟩ := tags_of_run ht .block
  obtain ⟨-, hnamedItem, -⟩ := tags_of_run ht .item
  have hnone : t.types.block.contains "minecraft:item.stick" = false := by
    have hnames : ∀ k ∈ stickAndTorch.itemPalette.keys,
        Identifier.withoutItemInfixes k ≠ "minecraft:item.stick" := by decide
    rw [Bool.eq_false_iff]
    intro hcontains
    obtain ⟨known, hknown, hname⟩ := (hblock _).1 hcontains
    exact hnames known hknown.1 hname
  have htorch : t.types.block.contains "mod:item.torch" = true :=
    (hblock _).2 ⟨"mod:iitem.tem.torch", ⟨by decide, Or.inl (by decide)⟩, by decide⟩
  have hstick : t.types.item.contains "minecraft:stick" = true :=
    (hitem _).2 (Or.inr ((hblock _).2
      ⟨"minecraft:item.stick", ⟨by decide, Or.inl (by decide)⟩, by decide⟩))
  have hwooden : stickAndTorch.blockTags.get? "minecraft:wooden" = some ["minecraft:stick",
    "mod:item.torch", "minecraft:item.stick"] := by decide
  have htools : stickAndTorch.itemTags.get? "minecraft:tools" = some ["minecraft:stick"] := by
    decide
  obtain ⟨g, hg, -, -, -, -, -, hleft⟩ := hnamed _ _ hwooden
  obtain ⟨f, hf, -, -, -, -, -, hleftItem⟩ := hnamedItem _ _ htools
  refine ⟨t, g, f, ht, hg, (hleft _).2 ⟨by decide, hnone⟩, ?_, hbare _ hnone,
    (htagged _ htorch g).2 ⟨_, _, hwooden, by decide, hg⟩, hf, ?_⟩
  · intro hover
    exact Bool.false_ne_true (((hleft _).1 hover).2.symm.trans htorch)
  · intro hover
    exact Bool.false_ne_true (((hleftItem _).1 hover).2.symm.trans hstick)

end

end RegistryTables
