import RegistryTables.Source

/-
  A tree of files held in memory, for runs that touch no disk.

  Paths are relative to the root of the tree. They are walked component by component:
  each step needs a directory to start from, even one that goes nowhere. A path may lead
  out of the tree, where no name is found. Names have at most 255 bytes and paths at most
  4095.
-/
namespace RegistryTables

/-- How a run gets the text of a file. -/
abbrev FileReader := String → Except ReadFailure String

def decodeText (bytes : ByteArray) : Except ReadFailure String :=
  match String.fromUTF8? bytes with
  | some s => .ok s
  | none => .error .notText

/-- Files with their bytes, and directories, by the components of their paths from the
root. Of several entries for one place the first counts. -/
structure FileTree where
  entries : List (List String × Option ByteArray)

namespace FileTree

inductive Node where
  | file (bytes : ByteArray)
  | directory
  | nothing

def node (t : FileTree) (place : List String) : Node :=
  match t.entries.find? (·.1 == place) with
  | some (_, some bytes) => .file bytes
  | some (_, none) => .directory
  | none => .nothing

def components (path : String) : List String := (path.splitOn "/").filter (!·.isEmpty)

/-- The place that one component leads to. -/
def step (place : List String) (component : String) : List String :=
  if component = "." then place
  else if component = ".." then place.dropLast
  else place ++ [component]

/-- The directories on the way from a place, the last one first, and then those that were
there before. -/
def directories (place : List String) (before : List (List String × Option ByteArray)) :
    List String → List (List String × Option ByteArray)
  | [] => before
  | c :: rest => directories (step place c) ((place, none) :: before) rest

/-- The tree with what a path leads to, in place of what was there, and with the
directories on the way. -/
def insert (t : FileTree) (path : String) (content : Option ByteArray) : FileTree where
  entries := ((components path).foldl step [], content) ::
    directories [] t.entries (components path)

def empty : FileTree := ⟨[([], none)]⟩

/-- The tree of files and, where there are no bytes, directories at relative paths. The
last of several for one place counts. -/
def ofList (es : List (String × Option ByteArray)) : FileTree :=
  es.foldl (fun t e => t.insert e.1 e.2) empty

/-- Whether a name is longer than names may be. -/
def isLongName (name : String) : Bool := 255 < name.utf8ByteSize

/-- What is found by walking on outside the tree. -/
def walkOutside : List String → Except ReadFailure ByteArray
  | [] => .error .isDirectory
  | c :: rest =>
    if c = "." ∨ c = ".." then walkOutside rest
    else if isLongName c then .error .nameTooLong
    else .error .missing

def walk (t : FileTree) (place : List String) : List String → Except ReadFailure ByteArray
  | [] =>
    match t.node place with
    | .file bytes => .ok bytes
    | .directory => .error .isDirectory
    | .nothing => .error .missing
  | c :: rest =>
    match t.node place with
    | .file _ => .error .notDirectory
    | .nothing => .error .missing
    | .directory =>
      if place.isEmpty ∧ c = ".." then walkOutside rest
      else if isLongName c then .error .nameTooLong
      else t.walk (step place c) rest

/-- The bytes of the file at a path. A path with a leading separator begins outside the
tree. -/
def read (t : FileTree) (path : String) : Except ReadFailure ByteArray :=
  if '\x00' ∈ path.toList then .error .nulInName
  else if 4095 < path.utf8ByteSize then .error .nameTooLong
  else if path.startsWith "/" then walkOutside (components path)
  else t.walk [] (components path)

def reader (t : FileTree) : FileReader := fun path => do
  let bytes ← t.read path
  decodeText bytes

end FileTree

end RegistryTables
