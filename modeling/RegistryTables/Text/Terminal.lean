import RegistryTables.Text.Quoted

/-
  Text on its way to a terminal.

  A terminal takes some characters for commands: controls by themselves, and sequences
  that an escape character opens. A log spells out the characters that could hide or
  change what stands around them (`shielded`). A message to someone who may not have a
  terminal goes without any commands: sequences are taken out, and so are all controls
  but white space (`withoutCommands`).
-/
namespace RegistryTables.Text

/-! ## Spelling out -/

/-- The bell, the backspace, the form feed, the escape character and the delete character. -/
def isTerminalControl (c : Char) : Bool :=
  c == '\x07' || c == '\x08' || c == '\x0c' || c == '\x1b' || c == '\x7f'

/-- A character as a log shows it: controls that a terminal acts on by their number, those
of one byte with two digits. -/
def shieldedChar (c : Char) : List Char :=
  if isTerminalControl c then
    ['\\', 'x', Nat.digitChar (c.toNat / 16), Nat.digitChar (c.toNat % 16)]
  else if 0x80 ≤ c.toNat && c.toNat ≤ 0x9F then numberEscape c
  else [c]

def shielded (s : String) : String := String.ofList (s.toList.flatMap shieldedChar)

/-! ## Taking out -/

/-- How far a sequence has come. -/
inductive Sequence where
  | closed
  | escape
  /-- Behind an escape character and one that announces another. -/
  | announced
  /-- In a control sequence, which ends with a letter. -/
  | control
  /-- At the start of a device control string. -/
  | deviceStart
  /-- In the parameters of a device control string. -/
  | deviceParameters
  /-- Behind the parameters of a device control string. -/
  | deviceAnnounced
  /-- In the text of a device control string, or of one that is for nobody. -/
  | controlString
  /-- In a command to the operating system, which ends with a bell. -/
  | systemCommand
  deriving DecidableEq, Repr

def isWithin (first last c : Char) : Bool := first ≤ c && c ≤ last

/-- Whether the character ends a control string: the control that does so is a byte, and
any byte of a character counts. -/
def endsControlString (c : Char) : Bool := (String.utf8EncodeChar c).contains 0x9C

namespace Sequence

/-- The sequence after one more character. -/
def next (q : Sequence) (c : Char) : Sequence :=
  if c == '\x1b' then .escape
  else if c == '\x18' || c == '\x1a' then .closed
  else
    match q with
    | .closed => .closed
    | .escape =>
      if isWithin ' ' '/' c then .announced
      else if c == '[' then .control
      else if c == ']' then .systemCommand
      else if c == 'P' then .deviceStart
      else if c == 'X' || c == '^' || c == '_' then .controlString
      else if isWithin '0' '~' c then .closed
      else .escape
    | .announced => if isWithin '0' '~' c then .closed else .announced
    | .control => if isWithin '@' '~' c then .closed else .control
    | .deviceStart =>
      if isWithin ' ' '/' c then .deviceAnnounced
      else if isWithin '0' '?' c then .deviceParameters
      else if isWithin '@' '~' c then .controlString
      else .deviceStart
    | .deviceParameters =>
      if isWithin ' ' '/' c then .deviceAnnounced
      else if isWithin '<' '~' c then .controlString
      else .deviceParameters
    | .deviceAnnounced => if isWithin '0' '~' c then .controlString else .deviceAnnounced
    | .controlString => if endsControlString c then .closed else .controlString
    | .systemCommand => if c == '\x07' then .closed else .systemCommand

/-- Whether controls keep their meaning within the sequence. -/
def keepsControls : Sequence → Bool
  | .escape | .announced | .control => true
  | _ => false

end Sequence

/-- The controls that lay out a text. -/
def isLayout (c : Char) : Bool := c == '\t' || c == '\n' || c == '\x0c' || c == '\r'

/-- Whether the character shows, outside any sequence. -/
def isShown (c : Char) : Bool := isLayout c || (' ' ≤ c && c != '\x7f')

/-- What shows of a text behind an open sequence. A line break within a sequence shows; what
follows it shows too, up to the next command, which goes on with the sequence unless a
character beyond ASCII has come between. -/
def shownFrom (q : Sequence) (running : Bool) : List Char → List Char
  | [] => []
  | c :: rest =>
    if isShown c && (running || q == .closed || (q.keepsControls && isLayout c)) then
      c :: shownFrom (if c.toNat < 0x80 then q else .closed) true rest
    else shownFrom (q.next c) false rest

/-- The text without sequences and without controls other than white space. -/
def withoutCommands (s : String) : String := String.ofList (shownFrom .closed false s.toList)

end RegistryTables.Text
