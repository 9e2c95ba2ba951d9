import RegistryTables.Loading
import RegistryTables.Proofs.Json.Shapes

/-
  Tables read from JSON objects.

  A table is read from every text of an object with members of the right shape, whatever the
  white space and the spellings: each key has the value of its last member, keys being the
  same as soon as they are the same text. One member of another type anywhere among the
  members of an id table, and the whole file is of no use. What is proved:

   1. an index made of entries holds the last of each key (`Index.holdsLast_ofList`), so both
      kinds of tables do (`lastCounts_map`);
   2. a value that is no numeric id is refused (`read_legacyId_of_noId`), and so is an object
      with such a member, whatever stands before and behind it (`members_of_noId`,
      `readText_idTable_of_noId`);
   3. both together, down to what is loaded from the file (`tables_of_documents`). -/
namespace RegistryTables

theorem Index.get?_foldl_insert {κ α : Type} [DecidableEq κ] (es : List (κ × α)) (m : Index κ α)
    (k : κ) : (es.foldl (fun m e => m.insert e.1 e.2) m).get? k =
      (es.reverse.lookup k).or (m.get? k) := by
  induction es generalizing m with
  | nil => rfl
  | cons e es ih =>
    obtain ⟨key, value⟩ := e
    rw [List.foldl_cons, ih, get?_insert, List.reverse_cons, List.lookup_append, Option.or_assoc]
    congr 1
    by_cases hk : k = key
    · simp [hk]
    · have hkey : (k == key) = false := by simpa using hk
      simp [hk, hkey, List.lookup_cons]

/-- Each key has the value of its last entry in the list, and there are no other keys. -/
def Index.HoldsLast {κ α : Type} [DecidableEq κ] (m : Index κ α) (es : List (κ × α)) : Prop :=
  ∀ k, m.get? k = es.reverse.lookup k

theorem Index.holdsLast_ofList {κ α : Type} [DecidableEq κ] (es : List (κ × α)) :
    (ofList es).HoldsLast es := by
  intro k
  rw [ofList, get?_foldl_insert, get?_empty, Option.or_none]

namespace Json

/-- From every document of members a table is read in which each key has the value of its last
member. -/
def LastCounts {β : Type} (shape : Shape (Index String β)) (writes : β → List Char → Prop) :
    Prop :=
  ∀ (ms : List (String × β)) (text : String), Document (ObjectOf writes) ms text →
    ∃ table, shape.readText text = .ok table ∧ table.HoldsLast ms

/-- The values that are no numeric id: anything but a number, the integers of 64 bits, signed
or not, that are beyond 32 bits, and the decimals that a double holds. -/
def Tree.NoId : Tree → Prop
  | .integer n => (-9223372036854775808 ≤ n ∧ n < 18446744073709551616) ∧
      ¬ (-2147483648 ≤ n ∧ n ≤ 2147483647)
  | .decimal n => n.overflows = false
  | .text _ | .literal _ | .array _ | .object _ => True

namespace Shape

/-- A table is read exactly from the documents of its members. -/
theorem readText_table_iff {β : Type} {e : Shape β} {writes : β → List Char → Prop}
    (hfits : e.Fits writes) {text : String} {table : Index String β} :
    (e.object.map Index.ofList).readText text = .ok table ↔
      ∃ ms, Document (ObjectOf writes) ms text ∧ Index.ofList ms = table := by
  rw [readText_map]
  constructor
  · intro h
    cases hread : e.object.readText text with
    | error fault =>
      rw [hread] at h
      cases h
    | ok ms =>
      rw [hread] at h
      cases h
      exact ⟨ms, hfits.object.readText_eq_ok_iff.1 hread, rfl⟩
  · rintro ⟨ms, htext, rfl⟩
    rw [hfits.object.readText_eq_ok_iff.2 htext]
    rfl

theorem lastCounts_map {β : Type} {e : Shape β} {writes : β → List Char → Prop}
    (hfits : e.Fits writes) : LastCounts (e.object.map Index.ofList) writes :=
  fun ms _ htext =>
    ⟨Index.ofList ms, (readText_table_iff hfits).2 ⟨ms, htext, rfl⟩, Index.holdsLast_ofList ms⟩

theorem read_legacyId_of_noId {v : Tree} {w rest : List Char} (hw : Written v w) (hv : v.NoId)
    (hrest : EndsNumeral rest) : legacyId.read (tokens (w ++ rest)) = .error .mismatch := by
  cases hw with
  | text hw =>
    rw [hw.tokens_append]
    rfl
  | @integer n w hw =>
    obtain ⟨hbits, hrange⟩ := hv
    have hsize : n.natAbs < UInt64.size := by
      have : UInt64.size = 18446744073709551616 := rfl
      omega
    rw [hw, tokens_integer hsize hrest]
    simp only [legacyId, LegacyId.ofInt?, if_neg hrange]
  | @decimal n w hw hinteger =>
    have hfits : n.overflows = false := hv
    have htoken : n.token = .decimal false := by simp [Numeral.token, hfits, hinteger]
    rw [hw.tokens_append hrest, htoken]
    rfl
  | literal l =>
    rw [tokens_literal]
    rfl
  -- An opening bracket is enough.
  | array hw =>
    obtain ⟨w, rfl⟩ := hw.exists_cons
    rw [List.cons_append, tokens_punctuation rfl]
    rfl
  | object hw =>
    obtain ⟨w, rfl⟩ := hw.exists_cons
    rw [List.cons_append, tokens_punctuation rfl]
    rfl

/-- A member in front that is no numeric id is refused. -/
theorem members_of_noId_first {k : String} {v : Tree} {w behind : List Char}
    (hw : Member Written (k, v) w) (hv : v.NoId) (hends : EndsNumeral behind) :
    legacyId.members (tokens (w ++ behind)) = .error .mismatch := by
  cases hw with
  | @keyed _ _ key before core after hkey hbefore hcore hafter =>
    have hread : legacyId.read (tokens (before ++ (core ++ after) ++ behind)) =
        .error .mismatch := by
      rw [List.append_assoc, tokens_blank hbefore, List.append_assoc]
      exact read_legacyId_of_noId hcore hv (hafter.endsNumeral hends)
    rw [members_eq, List.append_assoc, List.cons_append, readKey_complete hkey]
    simp only [bind, Except.bind, hread]

theorem writesId_of_written {k : String} {l : LegacyId} {w : List Char}
    (hw : Member Written (k, .integer l.toInt) w) : Member WritesId (k, l) w := by
  cases hw with
  | keyed hkey hbefore hcore hafter =>
    cases hcore with
    | integer hcore => exact .keyed hkey hbefore hcore hafter

/-- A member that is no numeric id is refused, whatever members stand before and behind it. -/
theorem members_of_noId {before : List (String × LegacyId)} {k : String} {v : Tree}
    {after : List (String × Tree)} {w : List Char} (hv : v.NoId)
    (hw : Members Written (before.map (fun m => (m.1, .integer m.2.toInt)) ++ (k, v) :: after) w)
    (rest : List Char) : legacyId.members (tokens (w ++ '}' :: rest)) = .error .mismatch := by
  have hcomma : ∀ s, EndsNumeral (',' :: s) := endsNumeral_punctuation rfl
  induction before generalizing w with
  | nil =>
    obtain ⟨first, hfirst, ⟨-, rfl⟩ | ⟨ws, -, rfl⟩⟩ := hw.exists_member
    · exact members_of_noId_first hfirst hv (endsNumeral_punctuation rfl rest)
    · rw [List.append_assoc]
      exact members_of_noId_first hfirst hv (hcomma _)
  | cons m before ih =>
    obtain ⟨first, hfirst, ⟨hnone, -⟩ | ⟨ws, hws, rfl⟩⟩ := hw.exists_member
    · simp at hnone
    · rw [List.append_assoc, List.cons_append,
        fits_legacyId.members_member (writesId_of_written hfirst) (hcomma _),
        tokens_punctuation rfl]
      simp only [bind, Except.bind, ih hws]

theorem readText_idTable_of_noId {before : List (String × LegacyId)} {k : String} {v : Tree}
    {after : List (String × Tree)} {text : String} (hv : v.NoId)
    (htext : Document (ObjectOf Written)
      (before.map (fun m => (m.1, .integer m.2.toInt)) ++ (k, v) :: after) text) :
    idTable.readText text = .error .mismatch := by
  have hread : legacyId.object.read (tokens text.toList) = .error .mismatch := by
    obtain ⟨core, after, hcore, -, htokens⟩ := htext.exists_tokens
    obtain ⟨w, hw, rfl⟩ := hcore.exists_members (by simp)
    rw [htokens, List.cons_append, List.append_assoc, object_read_members hw,
      List.singleton_append, members_of_noId hv hw]
  rw [idTable, readText_map, readText, hread]
  rfl

end Shape

/-- The sources that are id tables. -/
def idTableSources : List Source :=
  [.itemPalette, .externalLegacyBlockIds, .externalLegacyItemIds, .internalLegacyItemIds]

/-- **Tables are what their documents say, by the last member of each key.** A key is the text
that its spelling stands for. A member table holds the members of the last member alone. If one
member of an id table is no numeric id, the file cannot be parsed, whatever valid members stand
before it and whatever members at all behind it, and the source is loaded without data. -/
theorem tables_of_documents :
    LastCounts Shape.idTable WritesId ∧ LastCounts Shape.memberTable (ArrayOf WritesText) ∧
      ∀ (before : List (String × LegacyId)) (key : String) (value : Tree)
        (after : List (String × Tree)) (text : String), value.NoId →
        Document (ObjectOf Written)
          (before.map (fun m => (m.1, .integer m.2.toInt)) ++ (key, value) :: after) text →
        Shape.idTable.readText text = .error .mismatch ∧
        ∀ s ∈ idTableSources, ∀ (dir : String) (read : FileReader),
          read (s.path dir) = .ok text →
          s.load dir read = .error ⟨s, s.path dir, .parse .mismatch⟩ ∧
          s.loadOrNone dir read =
            ⟨s.noData, [.sourceUnusable ⟨s, s.path dir, .parse .mismatch⟩]⟩ := by
  refine ⟨Shape.lastCounts_map Shape.fits_legacyId,
    Shape.lastCounts_map Shape.fits_text.array, ?_⟩
  intro before key value after text hvalue htext
  have hfault : Shape.idTable.readText text = .error .mismatch :=
    Shape.readText_idTable_of_noId hvalue htext
  refine ⟨hfault, ?_⟩
  intro s hs dir read hread
  have hshape : s.shape.readText text = .error .mismatch := by
    simp only [idTableSources, List.mem_cons, List.not_mem_nil, or_false] at hs
    rcases hs with rfl | rfl | rfl | rfl
    all_goals exact hfault
  have hload : s.load dir read = .error ⟨s, s.path dir, .parse .mismatch⟩ := by
    rw [Source.load_of_text hread, hshape]
    rfl
  refine ⟨hload, ?_⟩
  rw [Source.loadOrNone, hload]
  rfl

/-- A key that repeats in another spelling, members that are given up for none, and a string
and an array with a decimal among numbers. -/
theorem tables_of_documents_sameKey :
    (∃ table, Shape.idTable.readText "\x7b\"a\":1,\"\\u0061\":-2\x7d" = .ok table ∧
      table.get? "a" = some (-2)) ∧
    (∃ table, Shape.memberTable.readText "\x7b\"a\":[\"x\"],\"a\":[]\x7d" = .ok table ∧
      table.get? "a" = some []) ∧
    Shape.idTable.readText "\x7b\"a\":1,\"x\":\"a\"\x7d" = .error .mismatch ∧
    Shape.idTable.readText "\x7b\"a\":1,\"x\":[-1.5E+1]\x7d" = .error .mismatch := by
  obtain ⟨hidTable, hmemberTable, hbad⟩ := tables_of_documents
  have hhex : hexNumber? '0' '0' '6' '1' = some 'a'.toNat := rfl
  have hspelled : SpellsAll ['a'] _ := .cons (.unit hhex) .nil
  have hescaped : WritesText "a" _ := .quoted hspelled
  have ha := writesText_writeString "a"
  have hx := writesText_writeString "x"
  have hids : Document (ObjectOf WritesId) [("a", 1), ("a", -2)]
      "\x7b\"a\":1,\"\\u0061\":-2\x7d" := by
    have hwritten : ObjectOf WritesId [("a", 1), ("a", -2)] _ :=
      .full (.more (.plain ha rfl) (.last (.plain hescaped rfl)))
    exact .plain hwritten (by decide)
  have hmembers : Document (ObjectOf (ArrayOf WritesText)) [("a", ["x"]), ("a", [])]
      "\x7b\"a\":[\"x\"],\"a\":[]\x7d" := by
    have hwritten : ObjectOf (ArrayOf WritesText) [("a", ["x"]), ("a", [])] _ :=
      .full (.more (.plain ha (.full (.plain hx))) (.last (.plain ha (.empty blank_nil))))
    exact .plain hwritten (by decide)
  have hwrong : Document (ObjectOf Written) [("a", .integer 1), ("x", .text "a")]
      "\x7b\"a\":1,\"x\":\"a\"\x7d" := by
    have hwritten : ObjectOf Written [("a", .integer 1), ("x", .text "a")] _ :=
      .full (.more (.plain ha (.integer rfl)) (.last (.plain hx (.text ha))))
    exact .plain hwritten (by decide)
  let decimal : Numeral := ⟨true, ['1'], ['5'], false, ['1']⟩
  have hone : Digits ['1'] := digits_iff.2 (by decide)
  have hfive : Digits ['5'] := digits_iff.2 (by decide)
  have hdecimal : WritesNumeral decimal _ :=
    .parts ⟨hone, .inr (by decide)⟩ (.point hfive) (.power (.inr rfl) .plus hone)
  have hnested : Document (ObjectOf Written) [("a", .integer 1), ("x", .array [.decimal decimal])]
      "\x7b\"a\":1,\"x\":[-1.5E+1]\x7d" := by
    have hwritten : ObjectOf Written [("a", .integer 1), ("x", .array [.decimal decimal])] _ :=
      .full (.more (.plain ha (.integer rfl))
        (.last (.plain hx (.array (.full (.plain (.decimal hdecimal rfl)))))))
    exact .plain hwritten (by decide)
  obtain ⟨ids, hids, hlookup⟩ := hidTable _ _ hids
  obtain ⟨members, hmembers, hmlookup⟩ := hmemberTable _ _ hmembers
  refine ⟨⟨ids, hids, ?_⟩, ⟨members, hmembers, ?_⟩, ?_, ?_⟩
  · rw [hlookup]
    rfl
  · rw [hmlookup]
    rfl
  · exact (hbad [("a", 1)] "x" (.text "a") [] _ trivial hwrong).1
  · exact (hbad [("a", 1)] "x" (.array [.decimal decimal]) [] _ trivial hnested).1

end Json

end RegistryTables
