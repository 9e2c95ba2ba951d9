/-
  The two ways to assemble the item list, and their names.
-/
namespace RegistryTables

/-- How the item list is assembled from the tables of numeric ids. -/
inductive Strategy where
  /-- Internal items that the external table confirms, and external items known by name only. -/
  | crossReferenced
  | direct
  deriving DecidableEq, Repr

structure UnknownStrategy where
  name : String
  deriving DecidableEq, Repr

def UnknownStrategy.message (e : UnknownStrategy) : String := s!"invalid variant: {e.name}"

namespace Strategy

/-- The strategy of a run that does not choose one. -/
def preset : Strategy := .direct

instance : Inhabited Strategy := ⟨preset⟩

def all : List Strategy := [.crossReferenced, .direct]

def name : Strategy → String
  | .crossReferenced => "cross-referenced"
  | .direct => "direct"

def title : Strategy → String
  | .crossReferenced => "CrossReferenced"
  | .direct => "Direct"

/-- The text with the letters A to Z in lower case. -/
def foldCase (s : String) : String := s.map Char.toLower

/-- The strategy of a name, which must be written exactly, or up to the case of the
letters A to Z. -/
def ofName (name : String) (ignoreCase : Bool) : Except UnknownStrategy Strategy :=
  let fits (s : Strategy) : Bool :=
    if ignoreCase then foldCase s.name == foldCase name else s.name == name
  match all.find? fits with
  | some s => .ok s
  | none => .error ⟨name⟩

end Strategy

end RegistryTables
