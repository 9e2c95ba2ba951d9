import RegistryTables.Text.CaseTable

/-
  Lower case, as Unicode defines it for whole texts.

  Nearly every letter has one lower-case letter, whatever stands around it. Two do
  not: `İ` becomes an `i` and a dot above it, and a capital sigma at the end of a word
  becomes a final sigma.
-/
namespace RegistryTables.Text

def lowerChar (c : Char) : List Char :=
  if c.toNat < 128 then [c.toLower]
  else if c = '\u0130' then ['i', '\u0307']
  else
    match lowerCaseRanges.find? (·.holds c.toNat) with
    | some r => [Char.ofNat (c.toNat + r.offset).toNat]
    | none => [c]

def isCased (c : Char) : Bool := inRanges casedRanges c.toNat

/-- Whether the character may stand inside a word without a case of its own. -/
def isCaseIgnorable (c : Char) : Bool := inRanges caseIgnorableRanges c.toNat

/-- Whether the word goes on with a letter: the first character that counts has a case. -/
def meetsLetter (cs : List Char) : Bool :=
  match cs.dropWhile isCaseIgnorable with
  | c :: _ => isCased c
  | [] => false

/-- The lower-case form of `Σ`, given what stands before it, backwards, and after it. -/
def lowerSigma (before after : List Char) : Char :=
  if meetsLetter before && !meetsLetter after then '\u03c2' else '\u03c3'

/-- The lower-case form of the rest of a text; `before` is its beginning, backwards. -/
def lowerFrom (before : List Char) : List Char → List Char
  | [] => []
  | c :: rest =>
    (if c = '\u03a3' then [lowerSigma before rest] else lowerChar c) ++ lowerFrom (c :: before) rest

def lowercase (s : String) : String := String.ofList (lowerFrom [] s.toList)

end RegistryTables.Text
