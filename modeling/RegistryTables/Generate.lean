import RegistryTables.Blocks
import RegistryTables.Items
import RegistryTables.Session
import RegistryTables.Sounds

/-
  A run: from the data of all sources to the finished tables.

  Items are registered before blocks, so that an item of the item list wins over the
  shadow of a block of its identifier. Tags are built last, against the registries as
  they are then.
-/
namespace RegistryTables

structure Config where
  /-- The directory of the data sources. -/
  dataDir : String
  strategy : Strategy
  /-- The number of the items that are known by name only. -/
  sentinel : LegacyId
  deriving DecidableEq, Repr

/-- The choices of a run that chooses nothing. -/
def Config.preset : Config := ⟨"data", .preset, LegacyId.stringIdentified⟩

instance : Inhabited Config := ⟨.preset⟩

structure Tables where
  items : List TypeEntry
  blocks : List Block
  itemNamespaceIds : List Identifier
  types : Types
  tags : PerDomain TagIndex
  sounds : Sounds

/-- Why a run fails, by the stage that fails. -/
inductive RunError where
  | resolvingBlocks (e : BlockConflict)
  | buildingItemTags (e : DuplicateTag)
  | buildingBlockTags (e : DuplicateTag)
  deriving DecidableEq, Repr

namespace RunError

def stage : RunError → String
  | .resolvingBlocks _ => "Resolving blocks"
  | .buildingItemTags _ => "Building item tags"
  | .buildingBlockTags _ => "Building block tags"

def cause : RunError → String
  | .resolvingBlocks e => e.message
  | .buildingItemTags e => e.message
  | .buildingBlockTags e => e.message

def message (e : RunError) : String := s!"{e.stage}: {e.cause}"

end RunError

/-- The tags of both domains, items first. -/
def buildTags (s : Sources) (types : Types) : Logged (Except RunError (PerDomain TagIndex)) := do
  match ← TagIndex.build s.itemTags.entries types.item with
  | .error e => pure (.error (.buildingItemTags e))
  | .ok item =>
    match ← TagIndex.build s.blockTags.entries types.block with
    | .error e => pure (.error (.buildingBlockTags e))
    | .ok block => pure (.ok ⟨block, item⟩)

def generate (s : Sources) (c : Config) : Logged (Except RunError Tables) := do
  let sounds := Sounds.merge s.soundNames s.musicNames
  Logged.report (.soundsMerged sounds.size)
  let items ← Items.resolve c.strategy s.internalLegacyItemIds s.externalLegacyItemIds
    s.externalLegacyBlockIds c.sentinel
  let types ← Types.empty.registerItems items
  Logged.report (.itemsRegistered types.item.size items.length)
  match ← Blocks.resolve s.itemPalette s.externalLegacyBlockIds s.internalLegacyItemIds with
  | .error e => pure (.error (.resolvingBlocks e))
  | .ok blocks =>
    let types ← types.registerBlocks (blocks.map Block.entry)
    Logged.report (.blocksRegistered types.block.size types.item.size)
    match ← buildTags s types with
    | .error e => pure (.error e)
    | .ok tags =>
      Logged.report (.tagsBuilt tags.item.size tags.block.size)
      pure (.ok {
        items, blocks, types, tags, sounds
        itemNamespaceIds := Items.namespaceIds s.itemPalette })

def Tables.counts (t : Tables) : Counts where
  items := t.items.length
  blocks := t.blocks.length
  itemNamespaceIds := t.itemNamespaceIds.length
  blockTypes := t.types.block.size
  itemTypes := t.types.item.size
  blockTags := t.tags.block.size
  itemTags := t.tags.item.size
  sounds := t.sounds.size

end RegistryTables
