import RegistryTables.Registry
import RegistryTables.Sources

/-
  The block list, picked from the palette.

  The palette lists all items, blocks or not; a block is an entry that the external
  block table or the internal item table knows. A block may stand in the palette under
  its own identifier and as an item view. Then the item view is kept and the plain entry
  dropped, so that no block is registered twice. What is left may still clash: two
  entries whose identifiers become equal without their `item.` are an error.
-/
namespace RegistryTables

/-- A block of the palette. -/
structure Block where
  identifier : Identifier
  /-- The number the palette gives it. -/
  legacyId : LegacyId
  /-- Whether the entry of the palette is an item view of the block. -/
  isItemView : Bool
  deriving DecidableEq, Repr

namespace Block

/-- The identifier the block is registered under. -/
def registeredAs (b : Block) : Identifier := Identifier.withoutItemInfixes b.identifier

def entry (b : Block) : TypeEntry := ⟨b.registeredAs, b.legacyId⟩

end Block

/-- Two blocks that would be registered under one identifier. -/
structure BlockConflict where
  identifier : Identifier
  first : Identifier
  second : Identifier
  deriving DecidableEq, Repr

def BlockConflict.message (e : BlockConflict) : String :=
  s!"Blocks {e.first} and {e.second} would both register as {e.identifier}"

namespace Blocks

/-- The entries of the palette that one of the two tables knows. -/
def candidates (palette legacyBlocks internalItems : IdTable) : List Block :=
  (palette.entries.filter fun e => legacyBlocks.contains e.1 || internalItems.contains e.1).map
    fun e => ⟨e.1, e.2, Identifier.isItemView e.1⟩

/-- The candidates, ascending by identifier, without the plain entries of which an item
view is a candidate too. -/
def survivors (blocks : List Block) : List Block :=
  let viewed := (blocks.filter (·.isItemView)).map (fun b => Identifier.stripItemView b.identifier)
  sortOn Block.identifier (blocks.filter fun b => b.isItemView || !decide (b.identifier ∈ viewed))

/-- The first block that would be registered under an identifier that is taken, given the
blocks before it under the identifiers they are registered with. -/
def firstConflict (taken : Index Identifier Identifier) : List Block → Option BlockConflict
  | [] => none
  | b :: rest =>
    match taken.get? b.registeredAs with
    | some first => some ⟨b.registeredAs, first, b.identifier⟩
    | none => firstConflict (taken.insertIfNew b.registeredAs b.identifier) rest

/-- The block list, or the first clash in it. -/
def resolve (palette legacyBlocks internalItems : IdTable) :
    Logged (Except BlockConflict (List Block)) := do
  let known := candidates palette legacyBlocks internalItems
  Logged.report (.blocksRecognised known.length palette.size)
  let blocks := survivors known
  match firstConflict .empty blocks with
  | some conflict => pure (.error conflict)
  | none => pure (.ok blocks)

end Blocks

end RegistryTables
