import RegistryTables.Proofs.Json.Strings
import RegistryTables.Proofs.Json.Numbers

/-
  JSON as a language: which texts stand for a value, without a word on how they are read.

  A value has many texts. White space may stand around every token, and each character of a
  string has the spellings that `Spells` lists. An integer has one text, its decimal one; any
  other number counts as it is written. Arrays and objects are described for any way to write
  their elements, so one description serves arrays of strings, objects of numbers and `Tree`,
  the values of any type. -/
namespace RegistryTables.Json

/-- White space, or nothing. -/
def Blank (w : List Char) : Prop := ∀ c ∈ w, c = ' ' ∨ c = '\t' ∨ c = '\n' ∨ c = '\r'

theorem blank_nil : Blank [] := by
  rintro c ⟨⟩

theorem Blank.append {v w : List Char} (hv : Blank v) (hw : Blank w) : Blank (v ++ w) := by
  intro c hc
  rcases List.mem_append.1 hc with hc | hc
  · exact hv c hc
  · exact hw c hc

/-! Single tokens. -/

/-- A string in quotes, in any spelling. -/
inductive WritesText (s : String) : List Char → Prop where
  | quoted {w : List Char} : SpellsAll s.toList w → WritesText s ('"' :: (w ++ ['"']))

theorem writesText_writeString (s : String) : WritesText s (writeString s) :=
  .quoted (writeChars_spell s.toList)

def WritesInteger (n : Int) (w : List Char) : Prop := w = integerText n

/-- A numeric id, in decimal. -/
def WritesId (l : LegacyId) : List Char → Prop := WritesInteger l.toInt

/-- The values that have a name. -/
inductive Literal where
  | true
  | false
  | null
  deriving DecidableEq, Repr

def Literal.letters : Literal → List Char
  | .true => ['t', 'r', 'u', 'e']
  | .false => ['f', 'a', 'l', 's', 'e']
  | .null => ['n', 'u', 'l', 'l']

/-- A token or a value with white space around it. -/
inductive Spaced (writes : List Char → Prop) : List Char → Prop where
  | around {before core after : List Char} : Blank before → writes core → Blank after →
      Spaced writes (before ++ (core ++ after))

/-! Arrays and objects. -/

section Compound

variable {α : Type} (writes : α → List Char → Prop)

/-- One value or more, each with white space around it, with commas between them. -/
inductive Elements : List α → List Char → Prop where
  | last {a : α} {before core after : List Char} :
      Blank before → writes a core → Blank after → Elements [a] (before ++ (core ++ after))
  | more {a : α} {as : List α} {before core after ws : List Char} :
      Blank before → writes a core → Blank after → Elements as ws →
        Elements (a :: as) (before ++ (core ++ (after ++ ',' :: ws)))

inductive ArrayOf : List α → List Char → Prop where
  | empty {w : List Char} : Blank w → ArrayOf [] ('[' :: (w ++ [']']))
  | full {as : List α} {w : List Char} : Elements writes as w → ArrayOf as ('[' :: (w ++ [']']))

/-- A key and its value, each with white space around it. -/
inductive Member : String × α → List Char → Prop where
  | keyed {k : String} {a : α} {key before core after : List Char} :
      Spaced (WritesText k) key → Blank before → writes a core → Blank after →
        Member (k, a) (key ++ ':' :: (before ++ (core ++ after)))

/-- One member or more, with commas between them. -/
inductive Members : List (String × α) → List Char → Prop where
  | last {m : String × α} {w : List Char} : Member writes m w → Members [m] w
  | more {m : String × α} {ms : List (String × α)} {w ws : List Char} :
      Member writes m w → Members ms ws → Members (m :: ms) (w ++ ',' :: ws)

/-- An object. Its keys may repeat. -/
inductive ObjectOf : List (String × α) → List Char → Prop where
  | empty {w : List Char} : Blank w → ObjectOf [] ('{' :: (w ++ ['}']))
  | full {ms : List (String × α)} {w : List Char} :
      Members writes ms w → ObjectOf ms ('{' :: (w ++ ['}']))

/-- The whole text is one value, with white space around it. -/
def Document (a : α) (text : String) : Prop := Spaced (writes a) text.toList

end Compound

section

variable {α : Type} {writes : α → List Char → Prop}

/-! Written without white space. -/

theorem Spaced.plain {writes : List Char → Prop} {w : List Char} (h : writes w) :
    Spaced writes w := by
  have := Spaced.around blank_nil h blank_nil
  rwa [List.append_nil] at this

theorem Elements.plain {a : α} {w : List Char} (h : writes a w) : Elements writes [a] w := by
  have := Elements.last blank_nil h blank_nil
  rwa [List.append_nil] at this

theorem Member.plain {k : String} {a : α} {key w : List Char} (hkey : WritesText k key)
    (h : writes a w) : Member writes (k, a) (key ++ ':' :: w) := by
  have := Member.keyed (.plain hkey) blank_nil h blank_nil
  rwa [List.append_nil] at this

theorem Document.plain {a : α} {w : List Char} {text : String} (h : writes a w)
    (htext : text.toList = w) : Document writes a text := by
  rw [Document, htext]
  exact .plain h

/-! What is in front. -/

theorem ArrayOf.exists_cons {as : List α} {w : List Char} (hw : ArrayOf writes as w) :
    ∃ v, w = '[' :: v := by
  cases hw with
  | empty _ => exact ⟨_, rfl⟩
  | full _ => exact ⟨_, rfl⟩

theorem ObjectOf.exists_cons {ms : List (String × α)} {w : List Char} (hw : ObjectOf writes ms w) :
    ∃ v, w = '{' :: v := by
  cases hw with
  | empty _ => exact ⟨_, rfl⟩
  | full _ => exact ⟨_, rfl⟩

theorem ObjectOf.exists_members {ms : List (String × α)} {w : List Char}
    (hw : ObjectOf writes ms w) (hne : ms ≠ []) :
    ∃ v, Members writes ms v ∧ w = '{' :: (v ++ ['}']) := by
  cases hw with
  | empty _ => exact absurd rfl hne
  | full hv => exact ⟨_, hv, rfl⟩

/-- The first member stands in front, and a comma and the others behind it. -/
theorem Members.exists_member {m : String × α} {ms : List (String × α)} {w : List Char}
    (hw : Members writes (m :: ms) w) :
    ∃ v, Member writes m v ∧
      (ms = [] ∧ w = v ∨ ∃ ws, Members writes ms ws ∧ w = v ++ ',' :: ws) := by
  cases hw with
  | last hm => exact ⟨w, hm, .inl ⟨rfl, rfl⟩⟩
  | more hm hms => exact ⟨_, hm, .inr ⟨_, hms, rfl⟩⟩

/-- Members start with the key of the first. -/
theorem Members.exists_firstKey {m : String × α} {ms : List (String × α)} {w : List Char}
    (hw : Members writes (m :: ms) w) :
    ∃ key value, Spaced (WritesText m.1) key ∧ w = key ++ ':' :: value := by
  obtain ⟨v, ⟨hkey, -, -, -⟩, ⟨-, rfl⟩ | ⟨ws, -, rfl⟩⟩ := hw.exists_member
  · exact ⟨_, _, hkey, rfl⟩
  · exact ⟨_, _, hkey, List.append_assoc ..⟩

theorem Members.exists_key {ms : List (String × α)} {w : List Char} (hw : Members writes ms w) :
    ∃ k key value, Spaced (WritesText k) key ∧ w = key ++ ':' :: value := by
  cases ms with
  | nil => nomatch hw
  | cons m ms =>
    obtain ⟨key, value, hkey, hvalue⟩ := hw.exists_firstKey
    exact ⟨m.1, key, value, hkey, hvalue⟩

end

/-- A value of any type. A number is an integer, or it has a fraction, an exponent or a minus
before a zero. -/
inductive Tree where
  | text (s : String)
  | integer (n : Int)
  | decimal (n : Numeral)
  | literal (l : Literal)
  | array (ts : List Tree)
  | object (ms : List (String × Tree))

inductive Written : Tree → List Char → Prop where
  | text {s : String} {w : List Char} : WritesText s w → Written (.text s) w
  | integer {n : Int} {w : List Char} : WritesInteger n w → Written (.integer n) w
  | decimal {n : Numeral} {w : List Char} :
      WritesNumeral n w → n.isInteger = false → Written (.decimal n) w
  | literal (l : Literal) : Written (.literal l) l.letters
  | array {ts : List Tree} {w : List Char} : ArrayOf Written ts w → Written (.array ts) w
  | object {ms : List (String × Tree)} {w : List Char} :
      ObjectOf Written ms w → Written (.object ms) w

end RegistryTables.Json
