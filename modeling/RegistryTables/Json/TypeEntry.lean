import RegistryTables.Registry
import RegistryTables.Json.Shape
import RegistryTables.Json.Skip

/-
  The JSON of identifiers, numeric ids and of the two together.

  An entry is written as an object of the two members `identifier` and `legacy_id`. It
  is read from such an object, in either order and among any other members, which are
  passed over, or from an array of the two values.
-/
namespace RegistryTables.Json

structure Draft where
  identifier : Option Identifier
  legacyId : Option LegacyId
  deriving DecidableEq, Repr

namespace Draft

def entry? (d : Draft) : Option TypeEntry := do
  let identifier ← d.identifier
  let legacyId ← d.legacyId
  pure ⟨identifier, legacyId⟩

/-- Whether the member of the key is known already. -/
def knows (d : Draft) (key : String) : Bool :=
  (key == "identifier" && d.identifier.isSome) || (key == "legacy_id" && d.legacyId.isSome)

/-- Whether a key stands here whose member is known already. -/
def repeatsKey (d : Draft) : List Token → Bool
  | .text (some key) :: _ => d.knows key
  | _ => false

/-- Reads the value of a key, or passes over it if the key is of no concern. -/
def readMember (d : Draft) (key : String) (ts : List Token) : Except Fault (Draft × List Token) :=
  if key = "identifier" then do
    let (identifier, rest) ← Shape.text.read ts
    .ok ({ d with identifier := some identifier }, rest)
  else if key = "legacy_id" then do
    let (legacyId, rest) ← Shape.legacyId.read ts
    .ok ({ d with legacyId := some legacyId }, rest)
  else do
    let rest ← skip ts
    .ok (d, rest)

theorem readMember_length {d d' : Draft} {key : String} {ts rest : List Token}
    (h : d.readMember key ts = .ok (d', rest)) : rest.length < ts.length := by
  unfold readMember at h
  split at h
  · obtain ⟨⟨identifier, r⟩, hr, h⟩ := exists_of_bind_eq_ok h
    cases h
    exact Shape.text.read_length hr
  · split at h
    · obtain ⟨⟨legacyId, r⟩, hr, h⟩ := exists_of_bind_eq_ok h
      cases h
      exact Shape.legacyId.read_length hr
    · obtain ⟨r, hr, h⟩ := exists_of_bind_eq_ok h
      cases h
      exact skip_length hr

/-- The entry of an object that is closed here; a part that is not known is missed now. -/
def close (d : Draft) (rest : List Token) : Except Fault (TypeEntry × List Token) :=
  match d.entry? with
  | some e => .ok (e, rest)
  | none => .error .mismatch

/-- Reads the members of an object and its closing bracket, from a key on. A key that is
known already is refused before its colon is looked for. -/
def readMembers (d : Draft) (ts : List Token) : Except Fault (TypeEntry × List Token) :=
  if d.repeatsKey ts then .error .mismatch
  else
    match _hk : readKey ts with
    | .error fault => .error fault
    | .ok (k, ts') =>
      match _h : d.readMember k ts' with
      | .error fault => .error fault
      | .ok (d', .comma :: rest) => d'.readMembers rest
      | .ok (d', .closeObject :: rest) => d'.close rest
      | .ok (_, rest) => .error (unexpected rest)
termination_by ts.length
decreasing_by
  have hk := readKey_length _hk
  have := readMember_length _h
  simp only [List.length_cons] at this
  omega

theorem close_length {d : Draft} {rest rest' : List Token} {e : TypeEntry}
    (h : d.close rest = .ok (e, rest')) : rest' = rest := by
  unfold close at h
  split at h
  · simp only [Except.ok.injEq, Prod.mk.injEq] at h
    exact h.2.symm
  · simp at h

theorem readMembers_length {d : Draft} {ts rest : List Token} {e : TypeEntry}
    (h : d.readMembers ts = .ok (e, rest)) : rest.length < ts.length := by
  induction hn : ts.length using Nat.strongRecOn generalizing ts rest d with
  | ind n ih =>
    unfold readMembers at h
    split at h
    · simp at h
    · split at h
      · simp at h
      · rename_i k ts' hk
        have hkl := readKey_length hk
        split at h
        · simp at h
        · rename_i d' more hr
          have hlt := readMember_length hr
          simp only [List.length_cons] at hlt
          have := ih more.length (by omega) h rfl
          omega
        · rename_i d' more hr
          have hlt := readMember_length hr
          simp only [List.length_cons] at hlt
          rw [close_length h]
          omega
        · simp at h

end Draft

/-- Reads the two values of an array and its closing bracket, from the first value on. -/
def readPair (ts : List Token) : Except Fault (TypeEntry × List Token) :=
  match Shape.text.read ts with
  | .error fault => .error fault
  | .ok (identifier, .comma :: ts) =>
    match Shape.legacyId.read ts with
    | .error fault => .error fault
    | .ok (legacyId, .closeArray :: rest) => .ok (⟨identifier, legacyId⟩, rest)
    | .ok (_, rest) => .error (unexpected rest)
  | .ok (_, .closeArray :: _) => .error .mismatch
  | .ok (_, rest) => .error (unexpected rest)

theorem readPair_length {ts rest : List Token} {e : TypeEntry}
    (h : readPair ts = .ok (e, rest)) : rest.length < ts.length := by
  unfold readPair at h
  split at h
  · simp at h
  · rename_i identifier more hi
    have h1 := Shape.text.read_length hi
    split at h
    · simp at h
    · rename_i l more' hl
      have h2 := Shape.legacyId.read_length hl
      simp only [Except.ok.injEq, Prod.mk.injEq] at h
      simp only [List.length_cons] at h1 h2
      rw [← h.2]
      omega
    · simp at h
  · simp at h
  · simp at h

/-- An entry: an object of its two members, or an array of their values. -/
def Shape.typeEntry : Shape TypeEntry where
  read
    | .openObject :: .closeObject :: _ => .error .mismatch
    | .openObject :: ts => Draft.readMembers ⟨none, none⟩ ts
    | .openArray :: .closeArray :: _ => .error .mismatch
    | .openArray :: ts => readPair ts
    | ts => .error (misfit ts)
  read_length := by
    intro ts a rest h
    split at h
    · simp at h
    · have := Draft.readMembers_length h
      simp only [List.length_cons]
      omega
    · simp at h
    · have := readPair_length h
      simp only [List.length_cons]
      omega
    · simp at h

def writeIdentifier (id : Identifier) : String := String.ofList (writeString id)

def writeLegacyId (l : LegacyId) : String := l.text

def writeTypeEntry (e : TypeEntry) : String :=
  String.ofList ("\x7b\"identifier\":".toList ++ writeString e.identifier ++
    ",\"legacy_id\":".toList ++ e.legacyId.text.toList ++ ['}'])

end RegistryTables.Json
