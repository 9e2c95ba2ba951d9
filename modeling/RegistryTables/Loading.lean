import RegistryTables.FileTree
import RegistryTables.Sources
import RegistryTables.Json.Shape

/-
  Loading the data of a run from the files of a directory.

  Each source is read by itself. One that cannot be used yields no data and one report,
  and the run goes on: a file that does not exist is no great matter, one that cannot
  be read or is not of the source's shape is a warning.
-/
namespace RegistryTables

namespace Json.Shape

/-- An id table: an object of numbers. The last of repeated keys counts. -/
def idTable : Shape IdTable := (object legacyId).map Index.ofList

/-- A member table: an object of arrays of strings. The last of repeated keys counts. -/
def memberTable : Shape MemberTable := (object (array text)).map Index.ofList

def names : Shape (List String) := array text

end Json.Shape

namespace Source

def Data : Source → Type
  | .itemPalette | .externalLegacyBlockIds | .externalLegacyItemIds | .internalLegacyItemIds =>
    IdTable
  | .blockTags | .itemTags => MemberTable
  | .soundNames | .musicNames => List String

def shape : (s : Source) → Json.Shape s.Data
  | .itemPalette | .externalLegacyBlockIds | .externalLegacyItemIds | .internalLegacyItemIds =>
    .idTable
  | .blockTags | .itemTags => .memberTable
  | .soundNames | .musicNames => .names

def noData : (s : Source) → s.Data
  | .itemPalette | .externalLegacyBlockIds | .externalLegacyItemIds | .internalLegacyItemIds =>
    Index.empty
  | .blockTags | .itemTags => Index.empty
  | .soundNames | .musicNames => []

def load (s : Source) (dir : String) (read : FileReader) : Except SourceFailure s.Data :=
  match read (s.path dir) with
  | .error failure => .error ⟨s, s.path dir, .read failure⟩
  | .ok content =>
    match s.shape.readText content with
    | .error fault => .error ⟨s, s.path dir, .parse fault⟩
    | .ok data => .ok data

/-- The report of a source that did not load. -/
def degraded (e : SourceFailure) (dir : String) : Event :=
  if e.isMissing then .sourceMissing e.source dir else .sourceUnusable e

/-- The data of a source's file, or none and a report of the reason. -/
def loadOrNone (s : Source) (dir : String) (read : FileReader) : Logged s.Data :=
  match s.load dir read with
  | .ok data => pure data
  | .error e => do
    Logged.report (degraded e dir)
    pure s.noData

theorem load_of_failure {s : Source} {dir : String} {read : FileReader} {failure : ReadFailure}
    (hread : read (s.path dir) = .error failure) :
    s.load dir read = .error ⟨s, s.path dir, .read failure⟩ := by
  rw [load, hread]

theorem load_of_text {s : Source} {dir : String} {read : FileReader} {content : String}
    (hread : read (s.path dir) = .ok content) :
    s.load dir read = (s.shape.readText content).mapError (⟨s, s.path dir, .parse ·⟩) := by
  rw [load, hread]
  simp only
  split
  case h_1 hfault => rw [hfault]; rfl
  case h_2 hdata => rw [hdata]; rfl

/-- Why the source does not load, if it does not. -/
def failure? (s : Source) (dir : String) (read : FileReader) : Option SourceFailure :=
  match s.load dir read with
  | .ok _ => none
  | .error e => some e

end Source

def Sources.load (dir : String) (read : FileReader) : Logged Sources := do
  let itemPalette ← Source.itemPalette.loadOrNone dir read
  let externalLegacyBlockIds ← Source.externalLegacyBlockIds.loadOrNone dir read
  let externalLegacyItemIds ← Source.externalLegacyItemIds.loadOrNone dir read
  let internalLegacyItemIds ← Source.internalLegacyItemIds.loadOrNone dir read
  let blockTags ← Source.blockTags.loadOrNone dir read
  let itemTags ← Source.itemTags.loadOrNone dir read
  let soundNames ← Source.soundNames.loadOrNone dir read
  let musicNames ← Source.musicNames.loadOrNone dir read
  pure {
    itemPalette, externalLegacyBlockIds, externalLegacyItemIds, internalLegacyItemIds
    blockTags, itemTags, soundNames, musicNames }

end RegistryTables
