import RegistryTables.Generate
import RegistryTables.Proofs.BlockList

/-
  The course of a run that succeeds: what each of its tables is, stage by stage, and
  what it reports, in order.

  What is proved:
    1. `course_of_ok` — the tables of a run are the results of its stages, each on the
       results of the stages before it.
    2. `Course.traces` — the only events of the lowest level are those of the
       registrations.
-/
namespace RegistryTables

/-- The events of the lowest level: the reports of discarded registrations. -/
def traces (es : List Event) : List Event := es.filter (fun e => decide (e.level = .trace))

theorem traces_append (es fs : List Event) : traces (es ++ fs) = traces es ++ traces fs :=
  List.filter_append es fs

theorem traces_eq_nil {es : List Event} (h : ∀ e ∈ es, e.level ≠ .trace) : traces es = [] := by
  rw [traces, List.filter_eq_nil_iff]
  intro e he
  simpa using h e he

def Sources.items (s : Sources) (c : Config) : Logged (List TypeEntry) :=
  Items.resolve c.strategy s.internalLegacyItemIds s.externalLegacyItemIds
    s.externalLegacyBlockIds c.sentinel

def Sources.blocks (s : Sources) : Logged (Except BlockConflict (List Block)) :=
  Blocks.resolve s.itemPalette s.externalLegacyBlockIds s.internalLegacyItemIds

/-- An identifier of the palette that is known as a block. -/
def Sources.KnowsBlock (s : Sources) (id : Identifier) : Prop :=
  Blocks.Known s.itemPalette s.externalLegacyBlockIds s.internalLegacyItemIds id

/-- The tables are those of a run that went through all stages. -/
structure Course (s : Sources) (c : Config) (t : Tables) : Prop where
  items : (s.items c).value = t.items
  blocks : s.blocks.value = .ok t.blocks
  itemNamespaceIds : Items.namespaceIds s.itemPalette = t.itemNamespaceIds
  types : ((Types.empty.registerItems t.items).value.registerBlocks
    (t.blocks.map Block.entry)).value = t.types
  tags : (buildTags s t.types).value = .ok t.tags
  sounds : Sounds.merge s.soundNames s.musicNames = t.sounds
  events : (generate s c).events =
    [.soundsMerged t.sounds.size] ++ (s.items c).events ++
    (Types.empty.registerItems t.items).events ++
    [.itemsRegistered (Types.empty.registerItems t.items).value.item.size t.items.length] ++
    s.blocks.events ++
    ((Types.empty.registerItems t.items).value.registerBlocks
      (t.blocks.map Block.entry)).events ++
    [.blocksRegistered t.types.block.size t.types.item.size] ++
    (buildTags s t.types).events ++
    [.tagsBuilt t.tags.item.size t.tags.block.size]

theorem course_of_ok {s : Sources} {c : Config} {t : Tables} (h : (generate s c).value = .ok t) :
    Course s c t := by
  unfold generate at h
  simp only [Logged.value_bind] at h
  cases hblocks : s.blocks.value with
  | error e =>
    rw [Sources.blocks] at hblocks
    rw [hblocks] at h
    cases h
  | ok blocks =>
    rw [Sources.blocks] at hblocks
    rw [hblocks] at h
    simp only [Logged.value_bind] at h
    split at h
    next e htags => cases h
    next tags htags =>
      obtain rfl := Except.ok.inj h
      refine ⟨rfl, hblocks, rfl, rfl, htags, rfl, ?_⟩
      unfold generate
      simp only [Logged.events_bind, hblocks, htags]
      simp [Sources.items, Sources.blocks, Logged.report, Logged.reports]

/-! ## Events of the lowest level -/

theorem TagIndex.level_of_mem_registerAll (types : Registry) :
    ∀ (source : List (String × List Identifier)) (r : TagIndex),
    ∀ e ∈ (registerAll types r source).events, e.level = .debug
  | [], _, _, he => absurd he List.not_mem_nil
  | (name, members) :: rest, r, e, he => by
    rw [registerAll] at he
    split at he
    · exact absurd he List.not_mem_nil
    · rw [Logged.events_bind] at he
      rcases List.mem_append.1 he with he | he
      · simp only [Logged.reports, reportDangling] at he
        split at he
        · exact absurd he List.not_mem_nil
        · rw [List.mem_singleton.1 he]
          rfl
      · exact level_of_mem_registerAll types rest _ e he

theorem level_of_mem_buildTags {s : Sources} {types : Types} {e : Event}
    (he : e ∈ (buildTags s types).events) : e.level = .debug := by
  rw [buildTags, Logged.events_bind] at he
  rcases List.mem_append.1 he with he | he
  · exact TagIndex.level_of_mem_registerAll _ _ _ e he
  · split at he
    · exact absurd he List.not_mem_nil
    · rw [Logged.events_bind] at he
      rcases List.mem_append.1 he with he | he
      · exact TagIndex.level_of_mem_registerAll _ _ _ e he
      · split at he <;> exact absurd he List.not_mem_nil

theorem Sources.traces_items (s : Sources) (c : Config) : traces (s.items c).events = [] := rfl

theorem Sources.traces_blocks (s : Sources) : traces s.blocks.events = [] := by
  rw [Sources.blocks, Blocks.events_resolve]
  rfl

theorem Course.traces {s : Sources} {c : Config} {t : Tables} (h : Course s c t) :
    traces (generate s c).events =
      traces (Types.empty.registerItems t.items).events ++
      traces ((Types.empty.registerItems t.items).value.registerBlocks
        (t.blocks.map Block.entry)).events := by
  have htags : RegistryTables.traces (buildTags s t.types).events = [] := by
    apply traces_eq_nil
    intro e he
    rw [level_of_mem_buildTags he]
    decide
  -- The other events of the pipeline itself are of a higher level.
  have hsounds : RegistryTables.traces [.soundsMerged t.sounds.size] = [] := rfl
  have hitems : ∀ n m, RegistryTables.traces [.itemsRegistered n m] = [] := fun _ _ => rfl
  have hblocks : ∀ n m, RegistryTables.traces [.blocksRegistered n m] = [] := fun _ _ => rfl
  have hbuilt : ∀ n m, RegistryTables.traces [.tagsBuilt n m] = [] := fun _ _ => rfl
  rw [h.events]
  simp only [traces_append, Sources.traces_items, Sources.traces_blocks, htags, hsounds, hitems,
    hblocks, hbuilt, List.nil_append, List.append_nil]

end RegistryTables
