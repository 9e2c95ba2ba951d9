import RegistryTables.Identifier
import RegistryTables.LegacyId
import RegistryTables.Source
import RegistryTables.Strategy

/-
  What a run reports on its way. An event says what happened; its level, the part of
  the program it comes from and its text are functions of that.
-/
namespace RegistryTables

/-- How much an event matters, least first. -/
inductive Level where
  | trace
  | debug
  | info
  | warn
  deriving DecidableEq, Repr

def Level.name : Level → String
  | .trace => "TRACE"
  | .debug => "DEBUG"
  | .info => "INFO"
  | .warn => "WARN"

structure Counts where
  items : Nat
  blocks : Nat
  itemNamespaceIds : Nat
  blockTypes : Nat
  itemTypes : Nat
  blockTags : Nat
  itemTags : Nat
  sounds : Nat
  deriving DecidableEq, Repr

inductive Event where
  /-- An object was registered under an identifier that was taken. -/
  | duplicateDiscarded (identifier : Identifier) (legacyId : LegacyId)
  /-- A tag of a member table names members that are not registered. -/
  | danglingMembers (tag : String) (count : Nat)
  | soundsMerged (count : Nat)
  | itemsResolved (count : Nat) (strategy : Strategy)
  | itemsRegistered (registered resolved : Nat)
  | blocksRecognised (candidates palette : Nat)
  | blocksRegistered (blocks items : Nat)
  | tagsBuilt (itemTags blockTags : Nat)
  | sourceMissing (source : Source) (dir : String)
  /-- A source's file exists and is of no use. -/
  | sourceUnusable (error : SourceFailure)
  | loadingFrom (dir : String)
  | finished (counts : Counts)
  /-- A tag of the finished tables, as it is shown, and how many of its members are registered. -/
  | tagSummary (shown : String) (resolved : Nat)
  deriving DecidableEq, Repr

namespace Event

def level : Event → Level
  | .duplicateDiscarded .. => .trace
  | .danglingMembers .. => .debug
  | .soundsMerged .. => .info
  | .itemsResolved .. => .debug
  | .itemsRegistered .. => .info
  | .blocksRecognised .. => .debug
  | .blocksRegistered .. => .info
  | .tagsBuilt .. => .info
  | .sourceMissing .. => .debug
  | .sourceUnusable .. => .warn
  | .loadingFrom .. => .info
  | .finished .. => .info
  | .tagSummary .. => .debug

def target : Event → String
  | .duplicateDiscarded .. => "rg_registry::registry"
  | .danglingMembers .. => "rg_registry::tags"
  | .soundsMerged .. => "rg_codegen::pipeline"
  | .itemsResolved .. => "rg_codegen::resolver::items"
  | .itemsRegistered .. => "rg_codegen::pipeline"
  | .blocksRecognised .. => "rg_codegen::resolver::blocks"
  | .blocksRegistered .. => "rg_codegen::pipeline"
  | .tagsBuilt .. => "rg_codegen::pipeline"
  | .sourceMissing .. => "rg_codegen::sources"
  | .sourceUnusable .. => "rg_codegen::sources"
  | .loadingFrom .. => "rg_codegen::cli"
  | .finished .. => "rg_codegen::cli"
  | .tagSummary .. => "rg_codegen::cli"

def message : Event → String
  | .duplicateDiscarded id l =>
    s!"Discarding duplicate registration of {id} (legacy id {l.text})"
  | .danglingMembers tag n => s!"Tag {tag} names {n} unregistered member(s)"
  | .soundsMerged n => s!"Merged {n} sound names"
  | .itemsResolved n s => s!"Resolved {n} items with the {s.title} strategy"
  | .itemsRegistered n m => s!"Registered {n} of {m} resolved items"
  | .blocksRecognised n m => s!"{n} of {m} palette entries are known blocks"
  | .blocksRegistered n m => s!"Registered {n} blocks, {m} items including block shadows"
  | .tagsBuilt n m => s!"Built {n} item tags and {m} block tags"
  | .sourceMissing s dir => s!"No {s.title} found in {dir}, using an empty set"
  | .sourceUnusable e => s!"{e.message}, using an empty set"
  | .loadingFrom dir => s!"Loading data sources from {dir}"
  | .finished c =>
    s!"Generation finished items={c.items} blocks={c.blocks}" ++
      s!" item_namespace_ids={c.itemNamespaceIds} block_types={c.blockTypes}" ++
      s!" item_types={c.itemTypes} block_tags={c.blockTags}" ++
      s!" item_tags={c.itemTags} sounds={c.sounds}"
  | .tagSummary shown n => s!"{shown}: {n} resolved"

def line (e : Event) : String := s!"{e.level.name} {e.target}: {e.message}"

end Event

/-- A result and the events on the way to it, in order. -/
structure Logged (α : Type) where
  value : α
  events : List Event
  deriving DecidableEq, Repr

namespace Logged

def reports (es : List Event) : Logged Unit := ⟨(), es⟩

def report (e : Event) : Logged Unit := reports [e]

instance : Monad Logged where
  pure a := ⟨a, []⟩
  bind x f := ⟨(f x.value).value, x.events ++ (f x.value).events⟩

@[simp] theorem value_pure {α : Type} (a : α) : (pure a : Logged α).value = a := rfl

@[simp] theorem events_pure {α : Type} (a : α) : (pure a : Logged α).events = [] := rfl

@[simp] theorem value_bind {α β : Type} (x : Logged α) (f : α → Logged β) :
    (x >>= f).value = (f x.value).value := rfl

@[simp] theorem events_bind {α β : Type} (x : Logged α) (f : α → Logged β) :
    (x >>= f).events = x.events ++ (f x.value).events := rfl

end Logged

end RegistryTables
