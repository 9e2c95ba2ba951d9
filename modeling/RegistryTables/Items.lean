import RegistryTables.Registry
import RegistryTables.Sources
import RegistryTables.Text.Lowercase

/-
  The item list, assembled from the tables of numeric ids.

  The direct strategy takes the external item table as it is. The cross-referenced one
  takes an internal item if the external table knows it, up to letter case, and drops
  the `item.` from its identifier; it then adds the external items that neither the
  internal items nor the external blocks name, with a number that says so.
-/
namespace RegistryTables.Items

/-- Ascending by identifier, and of the entries of one identifier the first. -/
def tidy (es : List TypeEntry) : List TypeEntry :=
  keepFirst TypeEntry.identifier (sortOn TypeEntry.identifier es)

def direct (externalItems : IdTable) : List TypeEntry :=
  tidy (externalItems.entries.map fun e => ⟨e.1, e.2⟩)

/-- The internal items whose lower-case identifier is an external item, ascending by the
identifier they have in the internal table. -/
def confirmed (internalItems externalItems : IdTable) : List TypeEntry :=
  (internalItems.sorted.filter fun e => externalItems.contains (Text.lowercase e.1)).map
    fun e => ⟨Identifier.withoutItemInfixes e.1, e.2⟩

/-- The external items that are neither internal items nor external blocks, with the
given number. -/
def nameOnly (internalItems externalItems externalBlocks : IdTable) (sentinel : LegacyId) :
    List TypeEntry :=
  let unknown (id : Identifier) : Bool :=
    !externalBlocks.contains id && !internalItems.contains id
  (externalItems.keys.filter unknown).map fun id => ⟨id, sentinel⟩

/-- The confirmed internal items and the external items that are known by name only. Of
two entries of one identifier a confirmed one counts, and of two confirmed ones that with
the lesser identifier in the internal table. -/
def crossReferenced (internalItems externalItems externalBlocks : IdTable) (sentinel : LegacyId) :
    List TypeEntry :=
  tidy (confirmed internalItems externalItems ++
    nameOnly internalItems externalItems externalBlocks sentinel)

def resolve (strategy : Strategy) (internalItems externalItems externalBlocks : IdTable)
    (sentinel : LegacyId) : Logged (List TypeEntry) := do
  let items := match strategy with
    | .crossReferenced => crossReferenced internalItems externalItems externalBlocks sentinel
    | .direct => direct externalItems
  Logged.report (.itemsResolved items.length strategy)
  pure items

/-- The identifiers of a palette that are not item views, ascending. -/
def namespaceIds (palette : IdTable) : List Identifier :=
  sortOn id (palette.keys.filter fun i => !Identifier.isItemView i)

end RegistryTables.Items
