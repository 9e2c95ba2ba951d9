import RegistryTables.Proofs.RunCourse
import RegistryTables.Proofs.TagBuild

/-
  The one way in which a run fails.

  A run has three stages that can fail: the block list and the tags of both domains.
  The names of a table of tags differ, so only the block list ever does.

  What is proved:
    1. `buildTags_value` — the tags of both domains are built from any tables against
       any registries.
    2. `run_fails_iff` — a run fails exactly if the block list does, and with its clash.
-/
namespace RegistryTables

theorem buildTags_value (s : Sources) (types : Types) :
    (buildTags s types).value = .ok {
      block := TagIndex.empty.offerAll types.block s.blockTags.sorted
      item := TagIndex.empty.offerAll types.item s.itemTags.sorted } := by
  simp only [buildTags, Logged.value_bind, TagIndex.build_table, Logged.value_pure]

variable {s : Sources}

theorem generate_of_conflict {conflict : BlockConflict} (h : s.blocks.value = .error conflict)
    (c : Config) : (generate s c).value = .error (.resolvingBlocks conflict) := by
  rw [Sources.blocks] at h
  simp only [generate, Logged.value_bind, h, Logged.value_pure]

theorem exists_tables_of_blocks {blocks : List Block} (h : s.blocks.value = .ok blocks)
    (c : Config) : ∃ t, (generate s c).value = .ok t := by
  rw [Sources.blocks] at h
  simp only [generate, Logged.value_bind, h, buildTags_value, Logged.value_pure, Except.ok.injEq,
    exists_eq']

/-- A run fails exactly if its block list has a clash, and then with that clash; the tags
of a table, of either domain, are built without fail, whatever is registered. -/
theorem run_fails_iff (s : Sources) (c : Config) :
    (∀ e, (generate s c).value = .error e ↔
      ∃ conflict, (Blocks.resolve s.itemPalette s.externalLegacyBlockIds
        s.internalLegacyItemIds).value = .error conflict ∧ e = .resolvingBlocks conflict) ∧
    ((∃ t, (generate s c).value = .ok t) ↔
      ∃ blocks, (Blocks.resolve s.itemPalette s.externalLegacyBlockIds
        s.internalLegacyItemIds).value = .ok blocks) ∧
    (∀ types, ∃ tags, (buildTags s types).value = .ok tags) ∧
    ∀ (table : MemberTable) (types : Registry),
      ∃ tags, (TagIndex.build table.entries types).value = .ok tags := by
  refine ⟨?_, ?_, fun types => ⟨_, buildTags_value s types⟩,
    fun table types => ⟨_, TagIndex.build_table table types⟩⟩
  · -- failures
    intro e
    constructor
    · intro herror
      cases hblocks : s.blocks.value with
      | error conflict =>
        rw [generate_of_conflict hblocks] at herror
        exact ⟨conflict, hblocks, (Except.error.inj herror).symm⟩
      | ok blocks =>
        obtain ⟨t, ht⟩ := exists_tables_of_blocks hblocks c
        rw [ht] at herror
        cases herror
    · rintro ⟨conflict, hblocks, rfl⟩
      exact generate_of_conflict hblocks c
  · -- successes
    constructor
    · rintro ⟨t, ht⟩
      exact ⟨t.blocks, (course_of_ok ht).blocks⟩
    · rintro ⟨blocks, hblocks⟩
      exact exists_tables_of_blocks hblocks c

end RegistryTables
