import RegistryTables.Json.Fault

/-
  JSON strings: the characters between two quotes, read and written.

  A string is scanned in two steps. The first finds its end and resolves the escapes of
  single characters; an escape by number gives a code unit of 16 bits. The second joins
  the code units to characters, which fails where a surrogate stands alone. Who passes
  over a string needs the first step only.

  Written strings escape the quote, the backslash and the characters below U+0020, and
  nothing else.
-/
namespace RegistryTables.Json

/-- A part of a scanned string: a character, or the number of an escape. -/
inductive Piece where
  | char (c : Char)
  | unit (n : Nat)
  deriving DecidableEq, Repr

/-- A scanned string: its parts, and then either the text after the closing quote or what
keeps the string from ending. -/
inductive Scan where
  | closed (pieces : List Piece) (rest : List Char)
  | cut (pieces : List Piece) (fault : Fault)
  deriving DecidableEq, Repr

def Scan.cons (p : Piece) : Scan → Scan
  | .closed ps rest => .closed (p :: ps) rest
  | .cut ps fault => .cut (p :: ps) fault

def hexValue? (c : Char) : Option Nat :=
  if '0' ≤ c ∧ c ≤ '9' then some (c.toNat - '0'.toNat)
  else if 'a' ≤ c ∧ c ≤ 'f' then some (c.toNat - 'a'.toNat + 10)
  else if 'A' ≤ c ∧ c ≤ 'F' then some (c.toNat - 'A'.toNat + 10)
  else none

def hexNumber? (a b c d : Char) : Option Nat := do
  let a ← hexValue? a
  let b ← hexValue? b
  let c ← hexValue? c
  let d ← hexValue? d
  pure (((a * 16 + b) * 16 + c) * 16 + d)

/-- The character that a backslash and a letter stand for. -/
def escaped? : Char → Option Char
  | '"' => some '"'
  | '\\' => some '\\'
  | '/' => some '/'
  | 'b' => some '\x08'
  | 'f' => some '\x0c'
  | 'n' => some '\n'
  | 'r' => some '\r'
  | 't' => some '\t'
  | _ => none

/-- What is wrong with an escape by number that fewer than four characters follow: the
text ends in it, unless they still make four bytes. -/
def shortEscape (rest : List Char) : Fault :=
  if (String.ofList rest).utf8ByteSize < 4 then .truncated else .malformed

/-- Scans a string from behind its opening quote. -/
def scanString : List Char → Scan
  | [] => .cut [] .truncated
  | '"' :: rest => .closed [] rest
  | '\\' :: 'u' :: a :: b :: c :: d :: rest =>
    match hexNumber? a b c d with
    | some n => (scanString rest).cons (.unit n)
    | none => .cut [] .malformed
  | '\\' :: 'u' :: rest => .cut [] (shortEscape rest)
  | '\\' :: e :: rest =>
    match escaped? e with
    | some c => (scanString rest).cons (.char c)
    | none => .cut [] .malformed
  | ['\\'] => .cut [] .truncated
  | c :: rest => if c < ' ' then .cut [] .malformed else (scanString rest).cons (.char c)

/-- Whether the number is the first half of a surrogate pair. -/
def isHighSurrogate (n : Nat) : Bool := 0xD800 ≤ n && n ≤ 0xDBFF

/-- Whether the number is the second half of a surrogate pair. -/
def isLowSurrogate (n : Nat) : Bool := 0xDC00 ≤ n && n ≤ 0xDFFF

def ofSurrogates (high low : Nat) : Char :=
  Char.ofNat (0x10000 + (high - 0xD800) * 0x400 + (low - 0xDC00))

/-- The characters of the parts, if every surrogate is one of a pair. -/
def join : List Piece → Option (List Char)
  | [] => some []
  | .char c :: ps => (join ps).map (c :: ·)
  | .unit n :: ps =>
    if isHighSurrogate n then
      match ps with
      | .unit m :: rest =>
        if isLowSurrogate m then (join rest).map (ofSurrogates n m :: ·) else none
      | _ => none
    else if isLowSurrogate n then none
    else (join ps).map (Char.ofNat n :: ·)

/-- The parts without a last one that still waits for the second half of its pair. -/
def withoutOpenPair (ps : List Piece) : List Piece :=
  match ps.getLast? with
  | some (.unit n) => if isHighSurrogate n then ps.dropLast else ps
  | _ => ps

/-- What is wrong with a string that does not end: a surrogate that stands alone comes
before whatever cuts the string. -/
def cutString (ps : List Piece) (fault : Fault) : Break where
  read := if (join (withoutOpenPair ps)).isSome then fault else .malformed
  skip := fault

def writeChar : Char → List Char
  | '"' => ['\\', '"']
  | '\\' => ['\\', '\\']
  | '\x08' => ['\\', 'b']
  | '\t' => ['\\', 't']
  | '\n' => ['\\', 'n']
  | '\x0c' => ['\\', 'f']
  | '\r' => ['\\', 'r']
  | c =>
    if c < ' ' then
      ['\\', 'u', '0', '0', Nat.digitChar (c.toNat / 16), Nat.digitChar (c.toNat % 16)]
    else [c]

def writeString (s : String) : List Char := '"' :: s.toList.flatMap writeChar ++ ['"']

/-- A closed string uses up its closing quote. -/
theorem scanString_closed_length : ∀ {s : List Char} {ps : List Piece} {rest : List Char},
    scanString s = .closed ps rest → rest.length < s.length := by
  intro s
  induction s using scanString.induct with
  | case1 => intro ps rest h; simp [scanString] at h
  | case2 rest => intro ps r h; simp [scanString] at h; simp [h.2]
  | case3 a b c d rest n hn ih =>
    intro ps r h
    rw [scanString, hn] at h
    simp only [Scan.cons] at h
    split at h
    · rename_i hs
      cases h
      have := ih hs
      simp only [List.length_cons]
      omega
    · simp at h
  | case4 a b c d rest hn =>
    intro ps r h
    rw [scanString, hn] at h
    simp at h
  | case5 rest _ => intro ps r h; simp [scanString] at h
  | case6 e rest _ _ c hc ih =>
    intro ps r h
    rw [scanString] at h
    · rw [hc] at h
      simp only [Scan.cons] at h
      split at h
      · rename_i hs
        cases h
        have := ih hs
        simp only [List.length_cons]
        omega
      · simp at h
    all_goals assumption
  | case7 e rest _ _ hc =>
    intro ps r h
    rw [scanString] at h
    · rw [hc] at h
      simp at h
    all_goals assumption
  | case8 => intro ps r h; simp [scanString] at h
  | case9 c rest _ _ _ _ _ hc =>
    intro ps r h
    rw [scanString] at h
    · simp [hc] at h
    all_goals assumption
  | case10 c rest _ _ _ _ _ hc ih =>
    intro ps r h
    rw [scanString] at h
    · simp only [hc, if_false, Scan.cons] at h
      split at h
      · rename_i hs
        cases h
        have := ih hs
        simp only [List.length_cons]
        omega
      · simp at h
    all_goals assumption

end RegistryTables.Json
