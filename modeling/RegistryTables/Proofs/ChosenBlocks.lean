import RegistryTables.Proofs.BlockList

/-
  Which entries of a palette the block list has, said of the tables' identifiers alone.

  A plain entry gives way to its item view only if that is itself an entry of the palette
  that one of the two tables knows. An item view gives way to nothing, not even to an item
  view of it: what it would strip to counts for plain entries only.

  What is proved:
    1. `known_view_iff` — the candidates that are item views of an identifier are the
       known identifiers with `minecraft:item.` in place of its `minecraft:`.
    2. `mem_blockList_iff` — what a block list has, and in which order.
-/
namespace RegistryTables.Blocks

variable {palette legacyBlocks internalItems : IdTable}

/-- A candidate is an item view of the identifier exactly if both have one rest, behind
`minecraft:item.` in the view and behind `minecraft:` in the identifier. -/
theorem known_view_iff {id : Identifier} :
    (∃ v ∈ candidates palette legacyBlocks internalItems,
        v.isItemView = true ∧ Identifier.stripItemView v.identifier = id) ↔
      ∃ rest : String, id = "minecraft:" ++ rest ∧
        Known palette legacyBlocks internalItems ("minecraft:item." ++ rest) := by
  constructor
  · rintro ⟨v, hv, hview, rfl⟩
    rw [isItemView_of_mem_candidates hv] at hview
    obtain ⟨rest, hrest⟩ := Identifier.isItemView_iff_append.1 hview
    refine ⟨rest, ?_, ?_⟩
    · rw [hrest, Identifier.stripItemView_append]
    · rw [← hrest]
      exact known_of_mem_candidates hv
  · rintro ⟨rest, rfl, hknown⟩
    obtain ⟨v, hv, hid⟩ := exists_candidate hknown
    refine ⟨v, hv, ?_, ?_⟩
    · rw [isItemView_of_mem_candidates hv]
      exact Identifier.isItemView_iff_append.2 ⟨rest, hid⟩
    · rw [hid, Identifier.stripItemView_append]

/-- The block list ascends, and has exactly the known entries of the palette, with the
palette's numbers, but for plain entries with a known item view. -/
theorem mem_blockList_iff {blocks : List Block}
    (h : (resolve palette legacyBlocks internalItems).value = .ok blocks) :
    blocks.Pairwise (fun a b => a.identifier < b.identifier) ∧
    ∀ (id : Identifier) (n : LegacyId) (flag : Bool),
      ⟨id, n, flag⟩ ∈ blocks ↔
        palette.get? id = some n ∧ (id ∈ legacyBlocks.keys ∨ id ∈ internalItems.keys) ∧
        (flag = true ↔ ∃ rest : String, id = "minecraft:item." ++ rest) ∧
        (flag = true ∨ ¬ ∃ rest : String, id = "minecraft:" ++ rest ∧
          Known palette legacyBlocks internalItems ("minecraft:item." ++ rest)) := by
  obtain ⟨rfl, -⟩ := resolve_eq_ok_iff.1 h
  refine ⟨pairwise_lt_survivors nodup_candidates, ?_⟩
  intro id n flag
  rw [← known_view_iff, ← Identifier.isItemView_iff_append]
  rw [mem_survivors, mem_candidates, ← Bool.eq_iff_iff, and_assoc, and_assoc]
  refine and_congr_right fun _ => and_congr_right fun _ => and_congr_right fun _ =>
    or_congr_right ?_
  constructor
  · rintro hnone ⟨v, hv, hview, hstrip⟩
    exact hnone v hv hview hstrip
  · intro hnone v hv hview hstrip
    exact hnone ⟨v, hv, hview, hstrip⟩

/-- A palette with both entries of a stick and of a ghost. -/
def stickAndGhost : IdTable :=
  ⟨[("minecraft:stick", 3), ("minecraft:item.stick", 2), ("minecraft:ghost", 8),
    ("minecraft:item.ghost", 7)], by decide⟩

def plainStickAndGhost : IdTable :=
  ⟨[("minecraft:stick", 1), ("minecraft:ghost", 1)], by decide⟩

def viewOfStick : IdTable := ⟨[("minecraft:item.stick", 1)], by decide⟩

/-- Both plain entries are known, and of the item views that of the stick. So the plain
stick gives way to its view, and the plain ghost stays. -/
theorem mem_blockList_iff_stickAndGhost : ∃ blocks,
    (resolve stickAndGhost plainStickAndGhost viewOfStick).value = .ok blocks ∧
    ⟨"minecraft:item.stick", 2, true⟩ ∈ blocks ∧ ⟨"minecraft:ghost", 8, false⟩ ∈ blocks ∧
    ⟨"minecraft:stick", 3, false⟩ ∉ blocks := by
  have hnodup : ((survivors (candidates stickAndGhost plainStickAndGhost viewOfStick)).map
      Block.registeredAs).Nodup := by
    refine ((sortOn_perm Block.identifier _).map Block.registeredAs).nodup_iff.2 ?_
    decide
  have hblocks := resolve_eq_ok_iff.2 ⟨rfl, hnodup⟩
  obtain ⟨-, hmem⟩ := mem_blockList_iff hblocks
  have hstick : "minecraft:item.stick" = "minecraft:item." ++ "stick" := by cbv
  refine ⟨_, hblocks, (hmem _ _ _).2 ?_, (hmem _ _ _).2 ?_, ?_⟩
  · -- the item view of the stick
    exact ⟨by decide, by decide, iff_of_true rfl ⟨_, hstick⟩, .inl rfl⟩
  · -- the plain ghost: neither table knows its view
    have hview : ∀ k ∈ stickAndGhost.keys, Identifier.stripItemView k = "minecraft:ghost" →
        k = "minecraft:ghost" ∨ k = "minecraft:item.ghost" := by decide
    refine ⟨by decide, by decide, iff_of_false (by decide) ?_, .inr ?_⟩
    · intro hghost
      exact absurd (Identifier.isItemView_iff_append.2 hghost) (by decide)
    · rintro ⟨rest, hrest, hpalette, hknown⟩
      have hstrip := Identifier.stripItemView_append rest
      rw [← hrest] at hstrip
      rcases hview _ hpalette hstrip with heq | heq
      · exact absurd (Identifier.isItemView_iff_append.2 ⟨rest, heq.symm⟩) (by decide)
      · rw [heq] at hknown
        revert hknown
        decide
  · -- the plain stick
    intro hplain
    obtain ⟨-, -, -, hkept⟩ := (hmem _ _ _).1 hplain
    rcases hkept with hkept | hkept
    · cases hkept
    · refine hkept ⟨"stick", by cbv, ?_⟩
      rw [← hstick]
      exact ⟨by decide, .inr (by decide)⟩

end RegistryTables.Blocks
