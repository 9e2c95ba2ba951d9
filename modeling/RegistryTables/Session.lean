import RegistryTables.Tag

/-
  The registries of blocks and items side by side, and sessions over them.

  Every block is an item as well: registering a block also registers an item of the
  same identifier and numeric id, its shadow. Nothing else leads from one domain to
  the other.

  A session is a run of steps over the two registries, with an index of tags and a
  list of tags held back for each domain.
-/
namespace RegistryTables

inductive Domain where
  | block
  | item
  deriving DecidableEq, Repr

structure PerDomain (α : Type) where
  block : α
  item : α
  deriving DecidableEq, Repr

namespace PerDomain

variable {α : Type}

def get (p : PerDomain α) : Domain → α
  | .block => p.block
  | .item => p.item

def set (p : PerDomain α) (d : Domain) (a : α) : PerDomain α :=
  match d with
  | .block => { p with block := a }
  | .item => { p with item := a }

@[simp] theorem get_set_self (p : PerDomain α) (d : Domain) (a : α) : (p.set d a).get d = a := by
  cases d <;> rfl

@[simp] theorem set_get (p : PerDomain α) (d : Domain) : p.set d (p.get d) = p := by
  cases d <;> rfl

theorem get_set_ne (p : PerDomain α) {d e : Domain} (a : α) (h : e ≠ d) :
    (p.set d a).get e = p.get e := by
  cases d <;> cases e <;> first | rfl | exact absurd rfl h

end PerDomain

abbrev Types := PerDomain Registry

namespace Types

def empty : Types := ⟨.empty, .empty⟩

def registerItem (t : Types) (e : TypeEntry) : Logged (Types × Object) := do
  let (item, o) ← t.item.register e
  pure ({ t with item }, o)

/-- Registers a block and then its shadow, whether the block is a duplicate or not. An
item that was registered under the identifier before stays. -/
def registerBlock (t : Types) (e : TypeEntry) : Logged (Types × Object) := do
  let (block, o) ← t.block.register e
  let (item, _) ← t.item.register e
  pure (⟨block, item⟩, o)

def registerItems (t : Types) : List TypeEntry → Logged Types
  | [] => pure t
  | e :: rest => do
    let (t, _) ← t.registerItem e
    t.registerItems rest

/-- Registers one block after the other, each with its shadow. -/
def registerBlocks (t : Types) : List TypeEntry → Logged Types
  | [] => pure t
  | e :: rest => do
    let (t, _) ← t.registerBlock e
    t.registerBlocks rest

end Types

/-- The registries of types and of tags of both domains, and the tags held back in each.
A tag that is taken out leaves its place empty. -/
structure Session where
  types : Types
  tags : PerDomain TagIndex
  held : PerDomain (List (Option Tag))

namespace Session

def empty : Session := ⟨.empty, ⟨.empty, .empty⟩, ⟨[], []⟩⟩

instance : EmptyCollection Session := ⟨empty⟩

inductive Action where
  | ask (q : Registry.Question)
  | registerTag (name : String) (members : List Identifier)
  /-- Resolves a tag and holds it back. -/
  | holdTag (name : String) (members : List Identifier)
  /-- Takes a held tag from its place and registers it. -/
  | registerHeldTag (place : Nat)
  | compareHeldTags (a b : Nat)
  /-- Replaces the domain's tags by those built from the source. -/
  | buildTags (source : List (String × List Identifier))
  | getTag (name : String)
  | tagContains (name : String) (id : Identifier)
  | tagsOf (id : Identifier)
  | sortedTags
  | hasNoTags
  deriving DecidableEq, Repr

inductive Step where
  | registerBlock (e : TypeEntry)
  | registerItem (e : TypeEntry)
  | within (d : Domain) (a : Action)
  deriving DecidableEq, Repr

inductive Answer where
  | registered (o : Object)
  | asked (a : Registry.Answer)
  | tag (t : Option Tag)
  | duplicateTag (e : DuplicateTag)
  | flag (b : Option Bool)
  | count (n : Nat)
  /-- Tags in no order to rely on. -/
  | collection (ts : List Tag)
  | sequence (ts : List Tag)
  deriving DecidableEq, Repr

/-- The tag at a place of the domain's held tags. -/
def heldTag? (s : Session) (d : Domain) (place : Nat) : Option Tag :=
  ((s.held.get d)[place]?).join

/-- What a session answers to a registration of a tag. -/
def Answer.ofRegistration : Except DuplicateTag Tag → Answer
  | .ok t => .tag (some t)
  | .error e => .duplicateTag e

/-- Registers a resolved tag in the index of its domain. -/
def registerTag (s : Session) (d : Domain) (t : Tag) : Session × Answer :=
  let (r, result) := (s.tags.get d).register t
  ({ s with tags := s.tags.set d r }, .ofRegistration result)

def act (s : Session) (d : Domain) : Action → Logged (Session × Answer)
  | .ask q => pure (s, .asked ((s.types.get d).answer q))
  | .registerTag name members =>
    pure (s.registerTag d (Tag.resolve name members (s.types.get d)))
  | .holdTag name members =>
    let t := Tag.resolve name members (s.types.get d)
    pure ({ s with held := s.held.set d (s.held.get d ++ [some t]) }, .tag (some t))
  | .registerHeldTag place =>
    match s.heldTag? d place with
    | none => pure (s, .tag none)
    | some t =>
      let s := { s with held := s.held.set d ((s.held.get d).set place none) }
      pure (s.registerTag d t)
  | .compareHeldTags a b =>
    match s.heldTag? d a, s.heldTag? d b with
    | some t, some u => pure (s, .flag (some (t.same u)))
    | _, _ => pure (s, .flag none)
  | .buildTags source => do
    match ← TagIndex.build source (s.types.get d) with
    | .ok r => pure ({ s with tags := s.tags.set d r }, .count r.size)
    | .error e => pure (s, .duplicateTag e)
  | .getTag name => pure (s, .tag ((s.tags.get d).get? name))
  | .tagContains name id => pure (s, .flag (((s.tags.get d).get? name).map (·.contains id)))
  | .tagsOf id => pure (s, .collection ((s.tags.get d).tagsOf id))
  | .sortedTags => pure (s, .sequence (s.tags.get d).sortedTags)
  | .hasNoTags => pure (s, .flag (some (s.tags.get d).isEmpty))

/-- One step: the session after it and its answer. -/
def step (s : Session) : Step → Logged (Session × Answer)
  | .registerBlock e => do
    let (types, o) ← s.types.registerBlock e
    pure ({ s with types }, .registered o)
  | .registerItem e => do
    let (types, o) ← s.types.registerItem e
    pure ({ s with types }, .registered o)
  | .within d a => s.act d a

/-- The steps one after the other: after each the session and its answer. -/
def run (s : Session) : List Step → Logged (List (Session × Answer))
  | [] => pure []
  | a :: rest => do
    let (s, answer) ← s.step a
    let later ← s.run rest
    pure ((s, answer) :: later)

end Session

end RegistryTables
