/-
  Why a text cannot be read as JSON of the expected shape.
-/
namespace RegistryTables.Json

/-- The first problem of a text, reading from left to right. -/
inductive Fault where
  /-- A character stands where none like it may stand. -/
  | malformed
  | truncated
  /-- A value is of another type or out of range. -/
  | mismatch
  deriving DecidableEq, Repr

/-- What is wrong with a broken value, for a reader that wants the value and for one that
passes over it. -/
structure Break where
  read : Fault
  skip : Fault
  deriving DecidableEq, Repr

namespace Break

def atCharacter : Break := ⟨.malformed, .malformed⟩

/-- A number that lacks its last digits because the text ends. Who only passes over the
number does not look whether the text goes on. -/
def numberAtEnd : Break := ⟨.truncated, .malformed⟩

end Break

end RegistryTables.Json
