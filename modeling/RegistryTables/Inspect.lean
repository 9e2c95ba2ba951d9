import RegistryTables.Session
import RegistryTables.Text.Quoted

/-
  Registered types and numeric ids in full, as reports of errors show them.
-/
namespace RegistryTables

def Domain.typeName : Domain → String
  | .block => "BlockType"
  | .item => "ItemType"

def LegacyId.inspect (l : LegacyId) : String := s!"LegacyId({l.text})"

/-- A type with its kind and the names of its parts. -/
def TypeEntry.inspect (e : TypeEntry) (d : Domain) : String :=
  d.typeName ++ " \x7b identifier: " ++ Text.quoted e.identifier ++
    ", legacy_id: " ++ e.legacyId.inspect ++ " \x7d"

end RegistryTables
