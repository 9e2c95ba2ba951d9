import RegistryTables.Event
import RegistryTables.Index

/-
  The registry of one kind of type, blocks or items.

  A registry holds its objects under two keys, the identifier and the numeric id, and
  in each keyspace the first object of a key stays. The two indexes are filled
  independently of each other, so they may disagree: after `a`/1 and `a`/2, the
  identifier `a` leads to the first object and the id 2 to the second, although the
  second was discarded from the identifier index.

  Two objects may have the same identifier and the same numeric id and still come from
  two registrations. An object therefore carries the serial number it was minted with.
-/
namespace RegistryTables

/-- An identifier and a numeric id: what a type is registered with. -/
structure TypeEntry where
  identifier : Identifier
  legacyId : LegacyId
  deriving DecidableEq, Repr

/-- A registered type. The serial number tells it from any other object of its registry. -/
structure Object extends TypeEntry where
  serial : Nat
  deriving DecidableEq, Repr

/-- The objects under their identifiers and under their numeric ids, and how many
objects were minted so far. -/
structure Registry where
  byIdentifier : Index Identifier Object
  byLegacyId : Index LegacyId Object
  minted : Nat

namespace Registry

def empty : Registry := ⟨.empty, .empty, 0⟩

instance : EmptyCollection Registry := ⟨empty⟩
instance : Inhabited Registry := ⟨empty⟩

/-- A new object, different from all objects minted before. It is not registered yet. -/
def mint (r : Registry) (e : TypeEntry) : Registry × Object :=
  ({ r with minted := r.minted + 1 }, { e with serial := r.minted })

/-- Registers an object wherever it is the first of its key, and gives the object that
is now registered under its identifier. -/
def registerObject (r : Registry) (o : Object) : Logged (Registry × Object) :=
  let byLegacyId := r.byLegacyId.insertIfNew o.legacyId o
  match r.byIdentifier.get? o.identifier with
  | some first =>
    ⟨({ r with byLegacyId }, first), [.duplicateDiscarded o.identifier o.legacyId]⟩
  | none =>
    ⟨({ r with byIdentifier := r.byIdentifier.insertIfNew o.identifier o, byLegacyId }, o), []⟩

def register (r : Registry) (e : TypeEntry) : Logged (Registry × Object) :=
  (r.mint e).1.registerObject (r.mint e).2

def registerAll (r : Registry) : List TypeEntry → Logged Registry
  | [] => pure r
  | e :: rest => do
    let (r, _) ← r.register e
    r.registerAll rest

def get? (r : Registry) (id : Identifier) : Option Object := r.byIdentifier.get? id

def getByLegacyId? (r : Registry) (l : LegacyId) : Option Object := r.byLegacyId.get? l

def contains (r : Registry) (id : Identifier) : Bool := r.byIdentifier.contains id

def size (r : Registry) : Nat := r.byIdentifier.size

/-- The number of numeric ids in use. It may be less or more than the number of identifiers. -/
def legacySize (r : Registry) : Nat := r.byLegacyId.size

def isEmpty (r : Registry) : Bool := r.byIdentifier.isEmpty

/-- The objects under their identifiers, in no order to rely on. -/
def objects (r : Registry) : List Object := r.byIdentifier.values

/-- The objects under their identifiers, ascending by identifier. -/
def sortedObjects (r : Registry) : List Object := r.byIdentifier.sorted.map Prod.snd

/-! ## Questions -/

inductive Question where
  | get (id : Identifier)
  | getByLegacyId (l : LegacyId)
  | contains (id : Identifier)
  | isEmpty
  | objects
  | sortedObjects
  deriving DecidableEq, Repr

inductive Answer where
  | object (o : Option Object)
  | flag (b : Bool)
  /-- Objects in no order to rely on. -/
  | collection (os : List Object)
  | sequence (os : List Object)
  deriving DecidableEq, Repr

def answer (r : Registry) : Question → Answer
  | .get id => .object (r.get? id)
  | .getByLegacyId l => .object (r.getByLegacyId? l)
  | .contains id => .flag (r.contains id)
  | .isEmpty => .flag r.isEmpty
  | .objects => .collection r.objects
  | .sortedObjects => .sequence r.sortedObjects

/-! ## What a registration does -/

@[simp] theorem get?_empty (id : Identifier) : empty.get? id = none := rfl

theorem registerObject_result (r : Registry) (o : Object) :
    (r.registerObject o).value.2 = (r.get? o.identifier).getD o := by
  unfold registerObject get?
  cases r.byIdentifier.get? o.identifier <;> rfl

theorem get?_registerObject (r : Registry) (o : Object) (id : Identifier) :
    (r.registerObject o).value.1.get? id =
      if id = o.identifier then some ((r.get? id).getD o) else r.get? id := by
  unfold registerObject get?
  cases h : r.byIdentifier.get? o.identifier with
  | some first =>
    by_cases hid : id = o.identifier
    · subst hid; simp [h]
    · simp [hid]
  | none =>
    have hk := Index.get?_eq_none_iff.1 h
    simp only [Index.get?_insertIfNew]
    by_cases hid : id = o.identifier
    · subst hid; simp [h, hk]
    · simp [hid]

/-- A registration is reported exactly if its identifier was taken. -/
theorem registerObject_events (r : Registry) (o : Object) :
    (r.registerObject o).events =
      if r.contains o.identifier then [.duplicateDiscarded o.identifier o.legacyId] else [] := by
  unfold registerObject contains
  cases h : r.byIdentifier.get? o.identifier with
  | some first =>
    have hc := Index.contains_iff.2 (Index.mem_keys_iff.2 ⟨first, h⟩)
    simp [hc]
  | none =>
    have hc : r.byIdentifier.contains o.identifier = false := by
      rw [Bool.eq_false_iff]
      intro hc
      exact Index.get?_eq_none_iff.1 h (Index.contains_iff.1 hc)
    simp [hc]

end Registry

end RegistryTables
