import RegistryTables.Loading
import RegistryTables.CommandLine.Arguments
import RegistryTables.CommandLine.Help

/-
  The program on the command line: what it prints and the code it ends with, given its
  arguments and a way to read files.
-/
namespace RegistryTables.CommandLine

/-- What a run of the program leaves behind. -/
structure Outcome where
  code : Nat
  stdout : List String
  stderr : List String
  deriving DecidableEq, Repr

/-- The line without the carriage return that may stand before its end. -/
def withoutReturn (line : String) : String :=
  if line.toList.getLast? == some '\r' then String.ofList line.toList.dropLast else line

def lines (s : String) : List String := (s.splitOn "\n").map withoutReturn

def isShown (verbose : Bool) (e : Event) : Bool :=
  match e.level with
  | .info | .warn => true
  | .debug => verbose
  | .trace => false

/-- The lines of a log, with what a terminal might act on spelled out. -/
def logLines (verbose : Bool) (es : List Event) : List String :=
  (es.filter (isShown verbose)).flatMap fun e => lines (Text.shielded e.line)

/-- One report for every tag of a registry. -/
def tagSummaries (tags : TagIndex) : List Event :=
  tags.sortedTags.map fun t => .tagSummary t.shown t.types.length

def summary (t : Tables) : List Event :=
  .finished t.counts :: (tagSummaries t.tags.block ++ tagSummaries t.tags.item)

/-- Loads the sources and generates the tables, with all reports. -/
def execute (c : Config) (read : FileReader) : Logged (Except RunError Tables) := do
  Logged.report (.loadingFrom c.dataDir)
  let sources ← Sources.load c.dataDir read
  match ← generate sources c with
  | .error e => pure (.error e)
  | .ok tables => do
    Logged.reports (summary tables)
    pure (.ok tables)

def failure (e : RunError) : List String :=
  lines s!"Error: {e.stage}" ++ ["", "Caused by:"] ++ (lines e.cause).map ("    " ++ ·)

/-- The outcome of the program. Of a usage error only the first line is printed. -/
def run (args : List String) (read : FileReader) : Outcome :=
  match parse args with
  | .error (.help long) => ⟨0, if long then longHelp else shortHelp, []⟩
  | .error (.wrong e) => ⟨2, [], (lines e.message).take 1⟩
  | .ok given =>
    let result := execute given.config read
    let stdout := logLines given.verbose result.events
    match result.value with
    | .ok _ => ⟨0, stdout, []⟩
    | .error e => ⟨1, stdout, failure e⟩

end RegistryTables.CommandLine
