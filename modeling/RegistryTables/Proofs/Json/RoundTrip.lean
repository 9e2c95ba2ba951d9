import RegistryTables.Json.TypeEntry
import RegistryTables.Proofs.Json.Tokens

/-
  What is written as JSON is read back as the value it was written for.

  The text of a value is followed through the tokens to the reader of its shape. No
  character is excluded: quotes, backslashes and control characters are written as escapes,
  every other character as itself, and all of these are spellings of the character. The
  reader takes any spelling, so the text that is written is only one of those that an
  identifier is read from. What is proved:

   1. the tokens of a written string and of a written numeric id, whatever follows
      (`tokens_writeString`, `tokens_legacyId`), and of a written entry
      (`tokens_writeTypeEntry`);
   2. what is written for an identifier is a spelling in quotes (`quoted_writeIdentifier`),
      and from every such spelling the identifier is read (`read_quoted`);
   3. identifiers, numeric ids and entries round-trip (`read_back`): each value is read
      back from its text, and a text that can be read may be replaced by the text of its
      value. -/
namespace RegistryTables.Json

/-- Values of the shape survive being written: each is read back from the text written for
it. So does what was read from a text, in whatever way that text spells it. -/
structure RoundTrips {α : Type} (shape : Shape α) (write : α → String) : Prop where
  written : ∀ a : α, shape.readText (write a) = .ok a
  reread : ∀ (s : String) (a : α), shape.readText s = .ok a → shape.readText (write a) = .ok a

/-- The text is a spelling of the string, in quotes. -/
def Quoted (s : String) (text : String) : Prop :=
  ∃ w, SpellsAll s.toList w ∧ text.toList = '"' :: (w ++ ['"'])

theorem tokens_writeString (s : String) (rest : List Char) :
    tokens (writeString s ++ rest) = .text (some s) :: tokens rest :=
  (writesText_writeString s).tokens_append rest

theorem tokens_legacyId (l : LegacyId) {rest : List Char} (hrest : EndsNumeral rest) :
    tokens (l.text.toList ++ rest) = .integer l.toInt :: tokens rest := by
  have htext : l.text.toList = integerText l.toInt := String.toList_ofList
  rw [htext]
  exact tokens_integer l.natAbs_toInt_lt hrest

theorem tokens_writeTypeEntry (e : TypeEntry) :
    tokens (writeTypeEntry e).toList =
      [.openObject, .text (some "identifier"), .colon, .text (some e.identifier), .comma,
        .text (some "legacy_id"), .colon, .integer e.legacyId.toInt, .closeObject] := by
  have hopen : "\x7b\"identifier\":".toList = '{' :: (writeString "identifier" ++ [':']) := by
    cbv
  have hmiddle : ",\"legacy_id\":".toList = ',' :: (writeString "legacy_id" ++ [':']) := by
    cbv
  have htext : (writeTypeEntry e).toList =
      '{' :: (writeString "identifier" ++ ':' :: (writeString e.identifier ++
        ',' :: (writeString "legacy_id" ++ ':' :: (e.legacyId.text.toList ++ ['}'])))) := by
    refine String.toList_ofList.trans ?_
    rw [hopen, hmiddle]
    simp only [List.append_assoc, List.cons_append, List.nil_append]
  have hend : EndsNumeral ['}'] := endsNumeral_punctuation rfl []
  rw [htext, tokens_punctuation rfl, tokens_writeString, tokens_punctuation rfl,
    tokens_writeString, tokens_punctuation rfl, tokens_writeString, tokens_punctuation rfl,
    tokens_legacyId _ hend, tokens_punctuation rfl, tokens]

theorem quoted_writeIdentifier (id : Identifier) : Quoted id (writeIdentifier id) :=
  ⟨id.toList.flatMap writeChar, writeChars_spell id.toList, String.toList_ofList⟩

theorem read_quoted {id : Identifier} {text : String} (h : Quoted id text) :
    Shape.text.readText text = .ok id := by
  obtain ⟨w, hspelled, htext⟩ := h
  have htokens : tokens text.toList = [.text (some id)] := by
    rw [htext, tokens_string hspelled, String.ofList_toList, tokens]
  rw [Shape.readText, htokens]
  rfl

theorem read_writeLegacyId (l : LegacyId) :
    Shape.legacyId.readText (writeLegacyId l) = .ok l := by
  have htokens : tokens (writeLegacyId l).toList = [.integer l.toInt] := by
    have := tokens_legacyId l endsNumeral_nil
    rwa [List.append_nil, tokens] at this
  rw [Shape.readText, htokens]
  simp only [Shape.legacyId, LegacyId.ofInt?_toInt]

namespace Draft

/-- A member whose key is new: its value decides what the draft becomes, and the mark behind
it whether the object goes on. -/
theorem readMembers_member {d : Draft} {key : String} (hnew : d.knows key = false)
    (ts : List Token) :
    d.readMembers (.text (some key) :: .colon :: ts) =
      match d.readMember key ts with
      | .error fault => .error fault
      | .ok (d', .comma :: rest) => d'.readMembers rest
      | .ok (d', .closeObject :: rest) => d'.close rest
      | .ok (_, rest) => .error (unexpected rest) := by
  have hkey : readKey (.text (some key) :: .colon :: ts) = .ok (key, ts) := rfl
  rw [readMembers, if_neg (by simp [repeatsKey, hnew])]
  split
  case h_1 fault hf =>
    rw [hkey] at hf
    cases hf
  case h_2 k ts' hk =>
    rw [hkey] at hk
    cases hk
    split <;> simp_all

theorem readMember_identifier (d : Draft) (id : Identifier) (ts : List Token) :
    d.readMember "identifier" (.text (some id) :: ts) =
      .ok (⟨some id, d.legacyId⟩, ts) := by
  rw [readMember, if_pos rfl]
  rfl

theorem readMember_legacyId (d : Draft) (l : LegacyId) (ts : List Token) :
    d.readMember "legacy_id" (.integer l.toInt :: ts) = .ok (⟨d.identifier, some l⟩, ts) := by
  rw [readMember, if_neg (by decide), if_pos rfl]
  simp only [Shape.legacyId, LegacyId.ofInt?_toInt]
  rfl

end Draft

theorem read_writeTypeEntry (e : TypeEntry) :
    Shape.typeEntry.readText (writeTypeEntry e) = .ok e := by
  have hread : Shape.typeEntry.read (tokens (writeTypeEntry e).toList) = .ok (e, []) := by
    rw [tokens_writeTypeEntry]
    calc Draft.readMembers ⟨none, none⟩ _
        = Draft.readMembers ⟨some e.identifier, none⟩
            [.text (some "legacy_id"), .colon, .integer e.legacyId.toInt, .closeObject] := by
          rw [Draft.readMembers_member rfl, Draft.readMember_identifier]
      _ = Draft.close ⟨some e.identifier, some e.legacyId⟩ [] := by
          rw [Draft.readMembers_member rfl, Draft.readMember_legacyId]
      _ = .ok (e, []) := rfl
  rw [Shape.readText, hread]

/-- **What is written is read back.** An identifier may hold any characters, a numeric id may be
any number of 32 bits, and blocks and items are both written and read as entries. What is
written for an identifier spells it in quotes, and it is read from every text that does. -/
theorem read_back :
    RoundTrips Shape.text writeIdentifier ∧ RoundTrips Shape.legacyId writeLegacyId ∧
      RoundTrips Shape.typeEntry writeTypeEntry ∧
      (∀ id, Quoted id (writeIdentifier id)) ∧
      ∀ id text, Quoted id text → Shape.text.readText text = .ok id := by
  have hidentifier : ∀ id, Shape.text.readText (writeIdentifier id) = .ok id :=
    fun id => read_quoted (quoted_writeIdentifier id)
  refine ⟨?_, ?_, ?_, quoted_writeIdentifier, fun _ _ => read_quoted⟩
  · -- identifiers
    exact ⟨hidentifier, fun _ id _ => hidentifier id⟩
  · -- numeric ids
    exact ⟨read_writeLegacyId, fun _ l _ => read_writeLegacyId l⟩
  · -- blocks and items
    exact ⟨read_writeTypeEntry, fun _ e _ => read_writeTypeEntry e⟩

/-- A character outside the basic plane may be spelled by its two surrogates and a slash by a
short escape. Both are read, and then written as themselves. -/
theorem read_back_escaped :
    Shape.text.readText "\"\\uD83D\\uDE00\\/\"" = .ok "😀/" ∧
    writeIdentifier "😀/" = "\"😀/\"" ∧
    Shape.text.readText (writeIdentifier "😀/") = .ok "😀/" := by
  have hhigh : hexNumber? 'D' '8' '3' 'D' = some 0xD83D := rfl
  have hlow : hexNumber? 'D' 'E' '0' '0' = some 0xDE00 := rfl
  have hslash : escaped? '/' = some '/' := rfl
  have hspelled : SpellsAll ['😀', '/'] _ :=
    .cons (.pair hhigh rfl hlow rfl rfl) (.cons (.short hslash) .nil)
  obtain ⟨hround, -, -, -, hquoted⟩ := read_back
  have hread := hquoted "😀/" "\"\\uD83D\\uDE00\\/\"" ⟨_, hspelled, by decide⟩
  exact ⟨hread, by decide, hround.reread _ _ hread⟩

end RegistryTables.Json
