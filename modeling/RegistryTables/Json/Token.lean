import RegistryTables.Json.Number
import RegistryTables.Json.Text

/-
  The tokens of a JSON text.

  The text is cut into tokens as far as it goes. Where it goes no further, a last token
  says why; a reader that stops before it never learns of it.
-/
namespace RegistryTables.Json

/-- A token. Of a string, the text is given unless its escapes make none; of a decimal,
whether it is too large for a double; of `true`, `false` and `null`, nothing. An integer
too large for a double is such a decimal. -/
inductive Token where
  | openArray
  | closeArray
  | openObject
  | closeObject
  | comma
  | colon
  | text (content : Option String)
  | integer (n : Int)
  | decimal (overflows : Bool)
  | literal
  | brokenText (b : Break)
  | broken (b : Break)
  deriving DecidableEq, Repr

def isBlank (c : Char) : Bool := c == ' ' || c == '\t' || c == '\n' || c == '\r'

def punctuation? : Char → Option Token
  | '[' => some .openArray
  | ']' => some .closeArray
  | '{' => some .openObject
  | '}' => some .closeObject
  | ',' => some .comma
  | ':' => some .colon
  | _ => none

/-- The other letters of the literal that starts with the character. -/
def literalLetters? : Char → Option (List Char)
  | 't' => some ['r', 'u', 'e']
  | 'f' => some ['a', 'l', 's', 'e']
  | 'n' => some ['u', 'l', 'l']
  | _ => none

/-- The text behind the letters it should start with. -/
def afterLetters : List Char → List Char → Except Fault (List Char)
  | [], s => .ok s
  | _ :: _, [] => .error .truncated
  | l :: ls, c :: s => if c = l then afterLetters ls s else .error .malformed

def Numeral.token (n : Numeral) : Token :=
  if n.overflows then .decimal true
  else if n.isInteger then .integer n.toInt
  else .decimal false

theorem afterLetters_length : ∀ {ls s rest : List Char},
    afterLetters ls s = .ok rest → rest.length ≤ s.length
  | [], s, rest, h => by
    simp only [afterLetters, Except.ok.injEq] at h
    simp [h]
  | _ :: _, [], _, h => by simp [afterLetters] at h
  | l :: ls, c :: s, rest, h => by
    simp only [afterLetters] at h
    split at h
    · have := afterLetters_length h
      simp only [List.length_cons]
      omega
    · simp at h

def tokens : List Char → List Token
  | [] => []
  | c :: s =>
    if isBlank c then tokens s
    else
      match punctuation? c with
      | some t => t :: tokens s
      | none =>
        if c = '"' then
          match _h : scanString s with
          | .closed ps rest => .text ((join ps).map String.ofList) :: tokens rest
          | .cut ps fault => [.brokenText (cutString ps fault)]
        else if c = '-' || c.isDigit then
          match _h : scanNumber (c :: s) with
          | .ok (n, rest) => n.token :: tokens rest
          | .error b => [.broken b]
        else
          match literalLetters? c with
          | some ls =>
            match _h : afterLetters ls s with
            | .ok rest => .literal :: tokens rest
            | .error fault => [.broken ⟨fault, fault⟩]
          | none => [.broken .atCharacter]
termination_by s => s.length
decreasing_by
  · simp
  · simp
  · have := scanString_closed_length _h
    simp only [List.length_cons]
    omega
  · exact scanNumber_length _h
  · have := afterLetters_length _h
    simp only [List.length_cons]
    omega

end RegistryTables.Json
