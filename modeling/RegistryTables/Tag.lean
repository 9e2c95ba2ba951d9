import RegistryTables.Registry

/-
  Tags: named sets of types.

  A tag names its members by identifier. It is resolved against a registry once, and
  keeps the objects it found; a member that was not registered then stays a member
  without an object. Within an index of tags a tag is known by its name alone.
-/
namespace RegistryTables

/-- A named set of types. `members` is ascending and without repetition, and `types`
holds the objects of those members that were registered, in the same order. Unlike an
object, a tag has no serial number: its contents stand for it, and two tags of the same
contents are one, though only one of them may have been registered. -/
structure Tag where
  name : String
  members : List Identifier
  types : List Object
  deriving DecidableEq, Repr

namespace Tag

/-- The tag of a name and its members, in any order and with any repetitions, against
the registry as it is now. -/
def resolve (name : String) (members : List Identifier) (types : Registry) : Tag where
  name := name
  members := distinct members
  types := (distinct members).filterMap types.get?

/-- The members without an object. -/
def unresolved (t : Tag) : List Identifier :=
  t.members.filter (fun m => !t.types.any (fun o => o.identifier = m))

/-- Whether the identifier is a member, with an object or without. -/
def contains (t : Tag) (id : Identifier) : Bool := decide (id ∈ t.members)

/-- Whether two tags are the same tag, as far as an index of tags is concerned. -/
def same (t u : Tag) : Bool := t.name == u.name

/-- The tag as it is shown: its name and the number of its members. -/
def shown (t : Tag) : String := s!"#{t.name} ({t.members.length} members)"

end Tag

/-- A tag was registered under a name that is taken. -/
structure DuplicateTag where
  name : String
  deriving DecidableEq, Repr

def DuplicateTag.message (e : DuplicateTag) : String := s!"Tag {e.name} is already registered"

/-- Tags under their names, and for every identifier the set of the tags that have an
object of that identifier. -/
structure TagIndex where
  byName : Index String Tag
  byMember : Index Identifier (List Tag)

namespace TagIndex

def empty : TagIndex := ⟨.empty, .empty⟩

instance : EmptyCollection TagIndex := ⟨empty⟩
instance : Inhabited TagIndex := ⟨empty⟩

/-- Adds a tag to a set of tags, unless the set has that tag. -/
def addTo (tags : List Tag) (t : Tag) : List Tag :=
  if tags.any (fun u => u.same t) then tags else tags ++ [t]

/-- The tags of an identifier, in no order to rely on. -/
def tagsOf (r : TagIndex) (id : Identifier) : List Tag := (r.byMember.get? id).getD []

/-- Adds the tag to the tags of the identifier of the object. -/
def addMember (t : Tag) (m : Index Identifier (List Tag)) (o : Object) :
    Index Identifier (List Tag) :=
  m.insert o.identifier (addTo ((m.get? o.identifier).getD []) t)

/-- Registers a tag under its name and for each of its objects: the index afterwards, and
the tag. A name that is taken is an error, and then the index is the one from before. -/
def register (r : TagIndex) (t : Tag) : TagIndex × Except DuplicateTag Tag :=
  if r.byName.contains t.name then (r, .error ⟨t.name⟩)
  else
    ({ byName := r.byName.insertIfNew t.name t
       byMember := t.types.foldl (addMember t) r.byMember }, .ok t)

def get? (r : TagIndex) (name : String) : Option Tag := r.byName.get? name

def size (r : TagIndex) : Nat := r.byName.size

def isEmpty (r : TagIndex) : Bool := r.byName.isEmpty

def sortedTags (r : TagIndex) : List Tag := r.byName.sorted.map Prod.snd

/-- A report of the tag's members without an object, if it has some. -/
def reportDangling (t : Tag) : List Event :=
  if t.unresolved.isEmpty then [] else [.danglingMembers t.name t.unresolved.length]

/-- Resolves and registers one tag after the other, up to the first name that is taken. -/
def registerAll (types : Registry) (r : TagIndex) :
    List (String × List Identifier) → Logged (Except DuplicateTag TagIndex)
  | [] => pure (.ok r)
  | (name, members) :: rest =>
    match r.register (Tag.resolve name members types) with
    | (_, .error e) => pure (.error e)
    | (r, .ok t) => do
      Logged.reports (reportDangling t)
      registerAll types r rest

/-- The index of the tags given by names and members, resolved against a registry of
types. The tags are registered in the order of their names. -/
def build (source : List (String × List Identifier)) (types : Registry) :
    Logged (Except DuplicateTag TagIndex) :=
  registerAll types empty (sortOn Prod.fst source)

end TagIndex

end RegistryTables
