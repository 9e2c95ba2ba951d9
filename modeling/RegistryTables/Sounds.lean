import RegistryTables.Sorting

/-
  The set of sound names: those of effects and of music, each once and in order, with
  membership by binary search.
-/
namespace RegistryTables

/-- Sound names, ascending. -/
structure Sounds where
  names : Array String
  deriving DecidableEq, Repr

namespace Sounds

def empty : Sounds := ⟨#[]⟩

instance : EmptyCollection Sounds := ⟨empty⟩
instance : Inhabited Sounds := ⟨empty⟩

/-- The names of both lists, each once. -/
def merge (effects music : List String) : Sounds := ⟨(distinct (effects ++ music)).toArray⟩

def size (s : Sounds) : Nat := s.names.size

def isEmpty (s : Sounds) : Bool := s.names.isEmpty

def toList (s : Sounds) : List String := s.names.toList

/-- Whether an ascending array has the name at one of the places from `low` up to but not
including `high`. -/
def search (names : Array String) (probe : String) (low high : Nat) (h : high ≤ names.size) :
    Bool :=
  if hlt : low < high then
    let middle := low + (high - low) / 2
    have hm : middle < names.size := by omega
    if names[middle] = probe then true
    else if names[middle] < probe then search names probe (middle + 1) high h
    else search names probe low middle (by omega)
  else false
termination_by high - low

/-- Whether the set has the name. -/
def contains (s : Sounds) (name : String) : Bool :=
  search s.names name 0 s.names.size (Nat.le_refl _)

end Sounds

end RegistryTables
