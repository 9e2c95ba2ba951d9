import RegistryTables.Json.Fault

/-
  The data sources of a run: eight JSON files of one directory, and why one of them
  may not yield its data.
-/
namespace RegistryTables

/-- The data sources, in the order in which they are loaded. -/
inductive Source where
  | itemPalette
  | externalLegacyBlockIds
  | externalLegacyItemIds
  | internalLegacyItemIds
  | blockTags
  | itemTags
  | soundNames
  | musicNames
  deriving DecidableEq, Repr

namespace Source

def all : List Source :=
  [.itemPalette, .externalLegacyBlockIds, .externalLegacyItemIds, .internalLegacyItemIds,
   .blockTags, .itemTags, .soundNames, .musicNames]

/-- The name of the file in the data directory. -/
def fileName : Source → String
  | .itemPalette => "item_palette.json"
  | .externalLegacyBlockIds => "external_legacy_block_ids.json"
  | .externalLegacyItemIds => "external_legacy_item_ids.json"
  | .internalLegacyItemIds => "internal_legacy_item_ids.json"
  | .blockTags => "block_tags.json"
  | .itemTags => "item_tags.json"
  | .soundNames => "sound_names.json"
  | .musicNames => "music_names.json"

/-- What reports call the source. -/
def title : Source → String
  | .itemPalette => "item palette"
  | .externalLegacyBlockIds => "external legacy block ids"
  | .externalLegacyItemIds => "external legacy item ids"
  | .internalLegacyItemIds => "internal legacy item ids"
  | .blockTags => "vanilla block tags"
  | .itemTags => "vanilla item tags"
  | .soundNames => "sound definitions"
  | .musicNames => "music definitions"

/-- The path of a file in a directory: one separator between them, unless the directory
is empty or ends in one. -/
def join (dir file : String) : String :=
  if dir.isEmpty || dir.toList.getLast? == some '/' then dir ++ file else dir ++ "/" ++ file

def path (s : Source) (dir : String) : String := join dir s.fileName

theorem fileName_injective {s t : Source} (h : s.fileName = t.fileName) : s = t := by
  revert h
  cases s <;> cases t <;> decide

end Source

inductive ReadFailure where
  | missing
  | notDirectory
  | isDirectory
  | notText
  /-- The path holds the character U+0000, which ends names. -/
  | nulInName
  /-- The path, or a name in it, is longer than the system takes. -/
  | nameTooLong
  /-- Anything else, as the system describes it. -/
  | other (description : String)
  deriving DecidableEq, Repr

def ReadFailure.message : ReadFailure → String
  | .missing => "No such file or directory (os error 2)"
  | .notDirectory => "Not a directory (os error 20)"
  | .isDirectory => "Is a directory (os error 21)"
  | .notText => "stream did not contain valid UTF-8"
  | .nulInName => "file name contained an unexpected NUL byte"
  | .nameTooLong => "File name too long (os error 36)"
  | .other description => description

/-- Why a source's file does not yield the source's data. -/
inductive SourceProblem where
  | read (failure : ReadFailure)
  | parse (fault : Json.Fault)
  deriving DecidableEq, Repr

/-- A source that did not load, the file it was to be read from, and the reason. -/
structure SourceFailure where
  source : Source
  path : String
  problem : SourceProblem
  deriving DecidableEq, Repr

namespace SourceFailure

/-- Whether the file just does not exist. -/
def isMissing (e : SourceFailure) : Bool := e.problem = .read .missing

/-- The report of the failure. What is wrong with a file's JSON is left open in it. -/
def message (e : SourceFailure) : String :=
  match e.problem with
  | .read failure => s!"Could not read {e.source.title} from {e.path}: {failure.message}"
  | .parse _ => s!"Could not parse {e.source.title} from {e.path}: <json error>"

end SourceFailure

end RegistryTables
