import RegistryTables.Event
import RegistryTables.Index

/-
  The data a run starts from: four tables of ids, two of tags and two lists of names.
-/
namespace RegistryTables

/-- A number for each of some identifiers. -/
abbrev IdTable := Index Identifier LegacyId

/-- The members of some tags, by the tag's name, in any order and with any repetitions. -/
abbrev MemberTable := Index String (List Identifier)

structure Sources where
  /-- The palette: the run-time number of every item, items of blocks included. -/
  itemPalette : IdTable
  externalLegacyBlockIds : IdTable
  externalLegacyItemIds : IdTable
  /-- The item ids that are maintained in the house. -/
  internalLegacyItemIds : IdTable
  blockTags : MemberTable
  itemTags : MemberTable
  /-- The names of sound effects, in any order and with any repetitions. -/
  soundNames : List String
  /-- The names of pieces of music, in any order and with any repetitions. -/
  musicNames : List String

namespace Sources

def empty : Sources := ⟨.empty, .empty, .empty, .empty, .empty, .empty, [], []⟩

instance : EmptyCollection Sources := ⟨empty⟩
instance : Inhabited Sources := ⟨empty⟩

def isEmpty (s : Sources) : Bool :=
  s.itemPalette.isEmpty && s.externalLegacyBlockIds.isEmpty && s.externalLegacyItemIds.isEmpty &&
    s.internalLegacyItemIds.isEmpty && s.blockTags.isEmpty && s.itemTags.isEmpty &&
    s.soundNames.isEmpty && s.musicNames.isEmpty

end Sources

end RegistryTables
