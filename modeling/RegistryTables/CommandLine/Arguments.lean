import RegistryTables.Generate
import RegistryTables.Text.Terminal

/-
  The arguments of the command line.

  Two options take a value, `--data-dir` and `--item-strategy`; two are switches,
  `--verbose` and `--help`. Each has a short name of one letter, and short names may be
  written together. A value follows its option, as the next argument or behind an equals
  sign, and behind a short name also directly.

  An option whose value is the next argument is settled only when the next option or
  switch is met, or the end. So an argument that nobody knows is reported first, and so
  is what is wrong with the option after it.
-/
namespace RegistryTables.CommandLine

inductive Setting where
  | dataDir
  | itemStrategy
  deriving DecidableEq, Repr

inductive Switch where
  | verbose
  | help
  deriving DecidableEq, Repr

/-- How messages call the option. -/
def Setting.shown : Setting → String
  | .dataDir => "--data-dir <DIR>"
  | .itemStrategy => "--item-strategy <ITEM_STRATEGY>"

def Switch.shown : Switch → String
  | .verbose => "--verbose"
  | .help => "--help"

/-- An option by its long name, without the dashes. -/
def ofLong? : String → Option (Setting ⊕ Switch)
  | "data-dir" => some (.inl .dataDir)
  | "item-strategy" => some (.inl .itemStrategy)
  | "verbose" => some (.inr .verbose)
  | "help" => some (.inr .help)
  | _ => none

def ofLetter? : Char → Option (Setting ⊕ Switch)
  | 'd' => some (.inl .dataDir)
  | 'i' => some (.inl .itemStrategy)
  | 'v' => some (.inr .verbose)
  | 'h' => some (.inr .help)
  | _ => none

inductive UsageError where
  | invalidValue (value : String) (s : Setting)
  | missingValue (s : Setting)
  | unexpectedArgument (argument : String)
  | repeated (shown : String)
  | unexpectedValue (value : String) (s : Switch)
  deriving DecidableEq, Repr

/-- The report of the error. What it repeats of the arguments goes without commands to a
terminal. -/
def UsageError.message : UsageError → String
  | .invalidValue value s =>
    s!"error: invalid value '{Text.withoutCommands value}' for '{s.shown}'"
  | .missingValue s => s!"error: a value is required for '{s.shown}' but none was supplied"
  | .unexpectedArgument argument =>
    s!"error: unexpected argument '{Text.withoutCommands argument}' found"
  | .repeated shown => s!"error: the argument '{shown}' cannot be used multiple times"
  | .unexpectedValue value s =>
    s!"error: unexpected value '{Text.withoutCommands value}' for '{s.shown}' found;" ++
      " no more were expected"

/-- Why reading the arguments stops early: help is asked for, or something is wrong. -/
inductive Stop where
  | help (long : Bool)
  | wrong (e : UsageError)
  deriving DecidableEq, Repr

structure Given where
  dataDir : Option String
  strategy : Option Strategy
  verbose : Bool
  deriving DecidableEq, Repr

/-- The reading of the arguments: what is given, and an option not settled yet, with its
value if that was read. -/
structure Reading where
  given : Given
  waiting : Option (Setting × Option String)
  deriving DecidableEq, Repr

namespace Given

def nothing : Given := ⟨none, none, false⟩

/-- Gives an option its value, unless it has one or the value is none for it. -/
def accept (g : Given) (s : Setting) (value : String) : Except UsageError Given :=
  match s with
  | .dataDir =>
    if g.dataDir.isSome then .error (.repeated s.shown)
    else if value.isEmpty then .error (.missingValue s)
    else .ok { g with dataDir := some value }
  | .itemStrategy =>
    if g.strategy.isSome then .error (.repeated s.shown)
    else if value.isEmpty then .error (.missingValue s)
    else
      match Strategy.ofName value false with
      | .ok strategy => .ok { g with strategy := some strategy }
      | .error _ => .error (.invalidValue value s)

def config (g : Given) : Config :=
  { Config.preset with
    dataDir := g.dataDir.getD Config.preset.dataDir
    strategy := g.strategy.getD Config.preset.strategy }

end Given

namespace Reading

def start : Reading := ⟨.nothing, none⟩

/-- Settles the option that waits, if one does. -/
def settle (r : Reading) : Except Stop Given :=
  match r.waiting with
  | none => .ok r.given
  | some (s, none) => .error (.wrong (.missingValue s))
  | some (s, some value) => (r.given.accept s value).mapError .wrong

def option (r : Reading) (s : Setting) (value : String) : Except Stop Reading := do
  let given ← r.settle
  let given ← (given.accept s value).mapError .wrong
  pure ⟨given, none⟩

def await (r : Reading) (s : Setting) : Except Stop Reading := do
  let given ← r.settle
  pure ⟨given, some (s, none)⟩

/-- A switch, by a long or a short name. -/
def switch (r : Reading) (long : Bool) : Switch → Except Stop Reading
  | .verbose => do
    let given ← r.settle
    if given.verbose then .error (.wrong (.repeated Switch.verbose.shown))
    else pure ⟨{ given with verbose := true }, none⟩
  | .help => do
    let _ ← r.settle
    .error (.help long)

/-- Letters written together. The first option among them takes the other letters as its
value, behind an equals sign or not; if there are none, the next argument. -/
def letters (r : Reading) : List Char → Except Stop Reading
  | [] => .ok r
  | c :: rest =>
    match ofLetter? c with
    | none => .error (.wrong (.unexpectedArgument (String.ofList ['-', c])))
    | some (.inr s) => do
      let r ← r.switch false s
      r.letters rest
    | some (.inl s) =>
      match rest with
      | [] => r.await s
      | '=' :: value => r.option s (String.ofList value)
      | value => r.option s (String.ofList value)

/-- A long name, with a value if an equals sign stands in it. -/
def long (r : Reading) (name : List Char) : Except Stop Reading :=
  let before := String.ofList (name.takeWhile (· ≠ '='))
  let value? : Option String :=
    if '=' ∈ name then some (String.ofList ((name.dropWhile (· ≠ '=')).drop 1)) else none
  match ofLong? before, value? with
  | none, _ => .error (.wrong (.unexpectedArgument ("--" ++ before)))
  | some (.inl s), none => r.await s
  | some (.inl s), some value => r.option s value
  | some (.inr s), none => r.switch true s
  | some (.inr s), some value => .error (.wrong (.unexpectedValue value s))

/-- An argument that is no option: the value of the option that waits for one. -/
def plain (r : Reading) (argument : String) : Except Stop Reading :=
  match r.waiting with
  | some (s, none) => .ok { r with waiting := some (s, some argument) }
  | _ => .error (.wrong (.unexpectedArgument argument))

/-- Reads the arguments. Two dashes alone end the options, and nothing may follow them. -/
def arguments (r : Reading) : List String → Except Stop Reading
  | [] => .ok r
  | a :: rest =>
    match a.toList with
    | ['-', '-'] =>
      match rest with
      | [] => .ok r
      | b :: _ => .error (.wrong (.unexpectedArgument b))
    | '-' :: '-' :: name => do
      let r ← r.long name
      r.arguments rest
    | '-' :: c :: cs => do
      let r ← r.letters (c :: cs)
      r.arguments rest
    | _ => do
      let r ← r.plain a
      r.arguments rest

end Reading

/-- What the arguments of a run say. -/
def parse (args : List String) : Except Stop Given := do
  let r ← Reading.start.arguments args
  r.settle

end RegistryTables.CommandLine
