import RegistryTables.CommandLine.Run

/-
  The program: reads the files that its arguments ask for and prints what it has to say.
-/
namespace RegistryTables

def readFile (path : String) : IO (Except ReadFailure String) := do
  try
    let bytes ← IO.FS.readBinFile path
    return decodeText bytes
  catch e =>
    match e with
    | .noFileOrDirectory .. => return .error .missing
    | _ => return .error (.other (toString e))

/-- The files of all sources in a directory, by their paths. -/
def readSources (dir : String) : IO (List (String × Except ReadFailure String)) :=
  Source.all.mapM fun s => do
    let content ← readFile (s.path dir)
    return (s.path dir, content)

end RegistryTables

open RegistryTables in
def main (args : List String) : IO UInt32 := do
  let files ← match CommandLine.parse args with
    | .ok given => readSources given.config.dataDir
    | .error _ => pure []
  let outcome := CommandLine.run args fun path => (files.lookup path).getD (.error .missing)
  outcome.stdout.forM IO.println
  outcome.stderr.forM IO.eprintln
  return outcome.code.toUInt32
