import RegistryTables.Proofs.Json.RoundTrip
import RegistryTables.Proofs.Json.PassedOver
import Mathlib.Data.List.Nodup
import Mathlib.Data.List.Perm.Subperm

/-
  Entries read from JSON objects with any further members.

  An entry has two members, and an object may hold others among them in any order. Of what
  was read only the keys count for what the draft knows, so the draft behind some members is
  `Draft.afterKeys` of their keys, and one member moves it on by its key. What is proved:

   1. a value of no concern is passed over and leaves the draft as it is, and the value of an
      own key fills in its part (`readMember_fitting`);
   2. so a front part of the members is read one after the other (`readMembers_front`), up to
      the closing bracket (`readMembers_all`) or to a key that comes again
      (`readMembers_again`);
   3. down to whole texts, whatever their white space and their spellings, and for the array
      of the two values as well (`entry_of_documents`). -/
namespace RegistryTables.Json

/-- The keys of an entry's own members. -/
def entryKeys : List String := ["identifier", "legacy_id"]

theorem nodup_entryKeys : entryKeys.Nodup := by decide

/-- The members of an entry. -/
def ownMembers (e : TypeEntry) : List (String × Tree) :=
  [("identifier", .text e.identifier), ("legacy_id", .integer e.legacyId.toInt)]

/-- Of the own members, only all together have both keys. -/
theorem eq_ownMembers {e : TypeEntry} {kept : List (String × Tree)}
    (hkept : kept.Sublist (ownMembers e)) (hall : ∀ k ∈ entryKeys, k ∈ kept.map Prod.fst) :
    kept = ownMembers e := by
  have hlength : entryKeys.length ≤ (kept.map Prod.fst).length :=
    (nodup_entryKeys.subperm hall).length_le
  rw [List.length_map] at hlength
  exact hkept.eq_of_length_le hlength

/-- Members that may stand behind those of the keys in an object for the entry: its own, each
at most once in all, and any with other keys. -/
structure Fitting (e : TypeEntry) (keys : List String) (ms : List (String × Tree)) : Prop where
  own : ∀ m ∈ ms, m.1 ∈ entryKeys → m ∈ ownMembers e
  once : ∀ k ∈ entryKeys, (keys ++ ms.map Prod.fst).count k ≤ 1

namespace Fitting

variable {e : TypeEntry} {keys : List String} {m : String × Tree}
  {before after kept others ms : List (String × Tree)}

theorem front (h : Fitting e keys (before ++ after)) : Fitting e keys before where
  own m hm := h.own m (List.mem_append_left after hm)
  once k hk := by
    have honce := h.once k hk
    rw [List.map_append, ← List.append_assoc, List.count_append] at honce
    omega

theorem behind (h : Fitting e keys (before ++ after)) :
    Fitting e (keys ++ before.map Prod.fst) after where
  own m hm := h.own m (List.mem_append_right before hm)
  once k hk := by
    rw [List.append_assoc, ← List.map_append]
    exact h.once k hk

/-- An own key in front has not been read yet. -/
theorem new (h : Fitting e keys (m :: ms)) (hm : m.1 ∈ entryKeys) : m.1 ∉ keys := by
  intro hread
  have honce := h.once m.1 hm
  have hfirst : 0 < keys.count m.1 := List.count_pos_iff.2 hread
  rw [List.count_append, List.map_cons, List.count_cons_self] at honce
  omega

/-- Own members, each at most once, fit among any others in any order. -/
theorem of_perm (hothers : ∀ m ∈ others, m.1 ∉ entryKeys) (hkept : kept.Sublist (ownMembers e))
    (hms : ms.Perm (kept ++ others)) : Fitting e [] ms where
  own m hm hown := by
    rcases List.mem_append.1 (hms.subset hm) with hm | hm
    · exact hkept.subset hm
    · exact absurd hown (hothers m hm)
  once k hk := by
    have hforeign : (others.map Prod.fst).count k = 0 := by
      refine List.count_eq_zero.2 fun hkey => ?_
      obtain ⟨m, hm, rfl⟩ := List.mem_map.1 hkey
      exact hothers m hm hk
    calc ([] ++ ms.map Prod.fst).count k
        = (ms.map Prod.fst).count k := rfl
      _ = ((kept ++ others).map Prod.fst).count k := (hms.map Prod.fst).count_eq k
      _ = (kept.map Prod.fst).count k := by
          rw [List.map_append, List.count_append, hforeign, Nat.add_zero]
      _ ≤ entryKeys.count k := (hkept.map Prod.fst).count_le k
      _ = 1 := List.count_eq_one_of_mem nodup_entryKeys hk

end Fitting

namespace Draft

/-- What is known of the entry behind members of these keys. -/
def afterKeys (e : TypeEntry) (keys : List String) : Draft where
  identifier := if "identifier" ∈ keys then some e.identifier else none
  legacyId := if "legacy_id" ∈ keys then some e.legacyId else none

variable {e : TypeEntry} {keys : List String} {k : String}

theorem knows_afterKeys :
    (afterKeys e keys).knows k = decide (k ∈ entryKeys ∧ k ∈ keys) := by
  by_cases hidentifier : k = "identifier"
  · subst hidentifier
    by_cases hk : "identifier" ∈ keys <;> simp [knows, afterKeys, entryKeys, hk]
  · by_cases hlegacyId : k = "legacy_id"
    · subst hlegacyId
      by_cases hk : "legacy_id" ∈ keys <;> simp [knows, afterKeys, entryKeys, hk]
    · simp [knows, entryKeys, hidentifier, hlegacyId]

theorem close_afterKeys (e : TypeEntry) (keys : List String) (rest : List Token) :
    (afterKeys e keys).close rest =
      if ∀ k ∈ entryKeys, k ∈ keys then .ok (e, rest) else .error .mismatch := by
  by_cases hidentifier : "identifier" ∈ keys <;> by_cases hlegacyId : "legacy_id" ∈ keys <;>
    simp [close, entry?, afterKeys, entryKeys, hidentifier, hlegacyId]

/-- Reading one member's value moves the draft on by its key. -/
theorem readMember_fitting {v : Tree} {w rest : List Char} (hw : Written v w)
    (hown : k ∈ entryKeys → (k, v) ∈ ownMembers e) (hrest : EndsNumeral rest) :
    (afterKeys e keys).readMember k (tokens (w ++ rest)) =
      .ok (afterKeys e (keys ++ [k]), tokens rest) := by
  by_cases hk : k ∈ entryKeys
  · have hmember := hown hk
    simp only [ownMembers, List.mem_cons, List.not_mem_nil, or_false, Prod.mk.injEq] at hmember
    rcases hmember with ⟨rfl, rfl⟩ | ⟨rfl, rfl⟩
    · cases hw with
      | text hw =>
        rw [hw.tokens_append, readMember_identifier]
        simp [afterKeys]
    · cases hw with
      | integer hw =>
        rw [hw, tokens_integer e.legacyId.natAbs_toInt_lt hrest, readMember_legacyId]
        simp [afterKeys]
  · obtain ⟨hidentifier, hlegacyId⟩ : k ≠ "identifier" ∧ k ≠ "legacy_id" := by
      simpa [entryKeys] using hk
    have hsame : afterKeys e (keys ++ [k]) = afterKeys e keys := by
      simp [afterKeys, hidentifier.symm, hlegacyId.symm]
    rw [readMember, if_neg hidentifier, if_neg hlegacyId, skip_written hw hrest, hsame]
    rfl

/-- A member in front is read, and the mark behind it decides whether the object goes on. -/
theorem readMembers_fitting {m : String × Tree} {w behind : List Char}
    (hw : Member Written m w) (hfit : Fitting e keys [m]) (hends : EndsNumeral behind) :
    (afterKeys e keys).readMembers (tokens (w ++ behind)) =
      match tokens behind with
      | .comma :: rest => (afterKeys e (keys ++ [m.1])).readMembers rest
      | .closeObject :: rest => (afterKeys e (keys ++ [m.1])).close rest
      | rest => .error (unexpected rest) := by
  cases hw with
  | @keyed k v key before core after hkey hbefore hcore hafter =>
    have hnew : (afterKeys e keys).knows k = false := by
      rw [knows_afterKeys]
      exact decide_eq_false fun h => hfit.new h.1 h.2
    have hvalue : (afterKeys e keys).readMember k (tokens (before ++ (core ++ after) ++ behind)) =
        .ok (afterKeys e (keys ++ [k]), tokens behind) := by
      rw [List.append_assoc, tokens_blank hbefore, List.append_assoc,
        readMember_fitting hcore (hfit.own _ List.mem_cons_self) (hafter.endsNumeral hends),
        tokens_blank hafter]
    rw [List.append_assoc, List.cons_append, tokens_key hkey, readMembers_member hnew, hvalue]
    rcases tokens behind with _ | ⟨t, ts⟩
    · rfl
    · cases t <;> rfl

/-- A front part of the members is read, and then the members behind it. -/
theorem readMembers_front {before after : List (String × Tree)} {w : List Char}
    (hw : Members Written (before ++ after) w) (hafter : after ≠ []) (hfit : Fitting e keys before)
    (rest : List Char) :
    ∃ v, Members Written after v ∧
      (afterKeys e keys).readMembers (tokens (w ++ '}' :: rest)) =
        (afterKeys e (keys ++ before.map Prod.fst)).readMembers (tokens (v ++ '}' :: rest)) := by
  -- The keys that have been read grow with every member of the front part.
  induction before generalizing keys w with
  | nil =>
    refine ⟨w, hw, ?_⟩
    rw [List.map_nil, List.append_nil]
  | cons m before ih =>
    obtain ⟨first, hfirst, ⟨hnone, -⟩ | ⟨ws, hws, rfl⟩⟩ := hw.exists_member
    · exact absurd (List.append_eq_nil_iff.1 hnone).2 hafter
    · have hsplit : Fitting e keys ([m] ++ before) := hfit
      obtain ⟨v, hv, hread⟩ := ih hws hsplit.behind
      refine ⟨v, hv, ?_⟩
      rw [List.append_assoc, List.cons_append,
        readMembers_fitting hfirst hsplit.front (endsNumeral_punctuation rfl _),
        tokens_punctuation rfl]
      rw [List.append_assoc] at hread
      exact hread

/-- Fitting members are read up to the closing bracket, and then both own keys have to be
among them. -/
theorem readMembers_all {ms : List (String × Tree)} {w : List Char} (hw : Members Written ms w)
    (hfit : Fitting e keys ms) (rest : List Char) :
    (afterKeys e keys).readMembers (tokens (w ++ '}' :: rest)) =
      (afterKeys e (keys ++ ms.map Prod.fst)).close (tokens rest) := by
  have hends : EndsNumeral ('}' :: rest) := endsNumeral_punctuation rfl rest
  obtain rfl | ⟨before, last, rfl⟩ := ms.eq_nil_or_concat
  · nomatch hw
  · rw [List.concat_eq_append] at hw hfit ⊢
    obtain ⟨v, hv, hread⟩ := readMembers_front hw (List.cons_ne_nil last []) hfit.front rest
    obtain ⟨_, hlast, ⟨-, rfl⟩ | ⟨_, hmore, -⟩⟩ := hv.exists_member
    · rw [hread, readMembers_fitting hlast hfit.behind hends, tokens_punctuation rfl,
        List.map_append, List.append_assoc]
      rfl
    · nomatch hmore

/-- An own key that has been read is refused as soon as it stands in front again. -/
theorem readMembers_again {v : Tree} {after : List (String × Tree)} {w : List Char}
    (hw : Members Written ((k, v) :: after) w) (hk : k ∈ entryKeys) (hread : k ∈ keys)
    (rest : List Char) :
    (afterKeys e keys).readMembers (tokens (w ++ rest)) = .error .mismatch := by
  obtain ⟨key, value, hkey, rfl⟩ := hw.exists_firstKey
  have hknown : (afterKeys e keys).knows k = true := by
    rw [knows_afterKeys]
    exact decide_eq_true ⟨hk, hread⟩
  rw [List.append_assoc, List.cons_append, tokens_key hkey, readMembers, repeatsKey, if_pos hknown]

end Draft

/-! Whole texts. -/

section

variable {e : TypeEntry} {ms : List (String × Tree)} {text : String}

/-- An object's text is read from its first member on. -/
theorem typeEntry_read_members (hne : ms ≠ []) (htext : Document (ObjectOf Written) ms text) :
    ∃ w after, Members Written ms w ∧ Blank after ∧
      Shape.typeEntry.read (tokens text.toList) =
        (Draft.afterKeys e []).readMembers (tokens (w ++ '}' :: after)) := by
  obtain ⟨core, after, hcore, hafter, htokens⟩ := htext.exists_tokens
  obtain ⟨w, hw, rfl⟩ := hcore.exists_members hne
  refine ⟨w, after, hw, hafter, ?_⟩
  obtain ⟨k, key, value, hkey, rfl⟩ := hw.exists_key
  rw [htokens, tokens_enclosed rfl, List.append_assoc, List.cons_append, tokens_key hkey]
  rfl

theorem typeEntry_read_empty (htext : Document (ObjectOf Written) [] text) :
    Shape.typeEntry.read (tokens text.toList) = .error .mismatch := by
  obtain ⟨core, after, hcore, -, htokens⟩ := htext.exists_tokens
  cases hcore with
  | empty hblank =>
    rw [htokens, hblank.tokens_enclosed rfl rfl]
    rfl
  | full hw => cases hw

/-- An object of fitting members is read as the entry if both of its own are among them. -/
theorem readText_of_fitting (hfit : Fitting e [] ms) (htext : Document (ObjectOf Written) ms text) :
    Shape.typeEntry.readText text =
      if ∀ k ∈ entryKeys, k ∈ ms.map Prod.fst then .ok e else .error .mismatch := by
  have hread : Shape.typeEntry.read (tokens text.toList) =
      if ∀ k ∈ entryKeys, k ∈ ms.map Prod.fst then .ok (e, []) else .error .mismatch := by
    by_cases hne : ms = []
    · subst hne
      exact typeEntry_read_empty htext
    · obtain ⟨w, after, hw, hafter, hread⟩ := typeEntry_read_members hne htext
      rw [hread, Draft.readMembers_all hw hfit, hafter.tokens_eq_nil, Draft.close_afterKeys]
      rfl
  rw [Shape.readText, hread]
  by_cases hall : ∀ k ∈ entryKeys, k ∈ ms.map Prod.fst
  · simp only [if_pos hall]
  · simp only [if_neg hall]

/-- An own key that comes again is refused, whatever stands behind it. -/
theorem readText_of_again {before after : List (String × Tree)} {k : String} {v : Tree}
    (hfit : Fitting e [] before) (hk : k ∈ entryKeys) (hread : k ∈ before.map Prod.fst)
    (htext : Document (ObjectOf Written) (before ++ (k, v) :: after) text) :
    Shape.typeEntry.readText text = .error .mismatch := by
  have hafter : (k, v) :: after ≠ [] := List.cons_ne_nil _ _
  obtain ⟨w, rest, hw, -, hfirst⟩ :=
    typeEntry_read_members (List.append_ne_nil_of_right_ne_nil before hafter) htext
  obtain ⟨u, hu, hfront⟩ := Draft.readMembers_front hw hafter hfit rest
  have hfault : Shape.typeEntry.read (tokens text.toList) = .error .mismatch := by
    rw [hfirst, hfront]
    exact Draft.readMembers_again hu hk hread _
  rw [Shape.readText, hfault]

theorem tokens_pair {w : List Char}
    (hw : Elements Written [.text e.identifier, .integer e.legacyId.toInt] w) (rest : List Char) :
    tokens (w ++ ']' :: rest) =
      [.text (some e.identifier), .comma, .integer e.legacyId.toInt, .closeArray] ++
        tokens rest := by
  cases hw with
  | more hbefore hidentifier hmiddle hlast =>
    cases hlast with
    | @last _ behind core after hbehind hlegacyId hafter =>
      have hends : EndsNumeral (after ++ ']' :: rest) :=
        hafter.endsNumeral (endsNumeral_punctuation rfl rest)
      cases hidentifier with
      | text hidentifier =>
        cases hlegacyId with
        | integer hlegacyId =>
          simp only [List.append_assoc, List.cons_append]
          rw [tokens_blank hbefore, hidentifier.tokens_append, tokens_blank hmiddle,
            tokens_punctuation rfl, tokens_blank hbehind, hlegacyId,
            tokens_integer e.legacyId.natAbs_toInt_lt hends, tokens_blank hafter,
            tokens_punctuation rfl]
          rfl
    | more _ _ _ hmore => nomatch hmore

/-- The two values in an array are the entry. -/
theorem readText_of_pair
    (htext : Document (ArrayOf Written) [.text e.identifier, .integer e.legacyId.toInt] text) :
    Shape.typeEntry.readText text = .ok e := by
  have hread : Shape.typeEntry.read (tokens text.toList) = .ok (e, []) := by
    obtain ⟨core, after, hcore, hafter, htokens⟩ := htext.exists_tokens
    cases hcore with
    | full hw =>
      rw [htokens, tokens_enclosed rfl, tokens_pair hw, hafter.tokens_eq_nil]
      show readPair [.text (some e.identifier), .comma, .integer e.legacyId.toInt, .closeArray] =
        .ok (e, [])
      simp only [readPair, Shape.text, Shape.legacyId, LegacyId.ofInt?_toInt]
  rw [Shape.readText, hread]

end

/-- **Entries are read from their documents, among any further members.** Blocks and items are
both read as entries. An object of the entry's two members and of others, which may hold any
values and repeat their keys, is the entry in whatever order the members stand, and so is the
array of the two values. If one of the two is left out, or comes again with any value, the text
is of another type than an entry; behind one that comes again, any members may stand. -/
theorem entry_of_documents (e : TypeEntry) (others : List (String × Tree))
    (hothers : ∀ m ∈ others, m.1 ≠ "identifier" ∧ m.1 ≠ "legacy_id") :
    (∀ ms text, ms.Perm (ownMembers e ++ others) → Document (ObjectOf Written) ms text →
      Shape.typeEntry.readText text = .ok e) ∧
    (∀ text, Document (ArrayOf Written) [.text e.identifier, .integer e.legacyId.toInt] text →
      Shape.typeEntry.readText text = .ok e) ∧
    (∀ kept ms text, kept.Sublist (ownMembers e) → kept ≠ ownMembers e →
      ms.Perm (kept ++ others) → Document (ObjectOf Written) ms text →
      Shape.typeEntry.readText text = .error .mismatch) ∧
    ∀ before rest key value after text, (before ++ rest).Perm (ownMembers e ++ others) →
      (key = "identifier" ∨ key = "legacy_id") → key ∈ before.map Prod.fst →
      Document (ObjectOf Written) (before ++ (key, value) :: after) text →
      Shape.typeEntry.readText text = .error .mismatch := by
  have hforeign : ∀ m ∈ others, m.1 ∉ entryKeys := by
    intro m hm
    simpa [entryKeys] using hothers m hm
  refine ⟨?_, ?_, ?_, ?_⟩
  · -- both members
    intro ms text hms htext
    have hall : ∀ k ∈ entryKeys, k ∈ ms.map Prod.fst := by
      intro k hk
      rw [(hms.map Prod.fst).mem_iff, List.map_append]
      exact List.mem_append_left _ hk
    rw [readText_of_fitting (.of_perm hforeign (.refl _) hms) htext, if_pos hall]
  · -- the two values
    exact fun text htext => readText_of_pair htext
  · -- one left out
    intro kept ms text hkept hne hms htext
    have hmissed : ¬ ∀ k ∈ entryKeys, k ∈ ms.map Prod.fst := by
      intro hall
      refine hne (eq_ownMembers hkept fun k hk => ?_)
      obtain ⟨m, hm, rfl⟩ := List.mem_map.1 (hall k hk)
      rcases List.mem_append.1 (hms.subset hm) with hm | hm
      · exact List.mem_map_of_mem hm
      · exact absurd hk (hforeign m hm)
    rw [readText_of_fitting (.of_perm hforeign hkept hms) htext, if_neg hmissed]
  · -- one that comes again
    intro before rest key value after text hms hkey hread htext
    have hfit : Fitting e [] before := (Fitting.of_perm hforeign (.refl _) hms).front
    refine readText_of_again hfit ?_ hread htext
    simpa [entryKeys] using hkey

/-- A foreign member with an object in an array, before the own members, instead of one of them,
and before one that comes again. -/
theorem entry_of_documents_nested :
    Shape.typeEntry.readText "\x7b\"a\":[\x7b\x7d,1],\"legacy_id\":-5,\"identifier\":\"x\"\x7d" =
      .ok ⟨"x", -5⟩ ∧
    Shape.typeEntry.readText "[\"x\",-5]" = .ok ⟨"x", -5⟩ ∧
    Shape.typeEntry.readText "\x7b\"a\":[\x7b\x7d,1],\"identifier\":\"x\"\x7d" = .error .mismatch ∧
    Shape.typeEntry.readText "\x7b\"identifier\":\"x\",\"a\":[\x7b\x7d,1],\"identifier\":null\x7d" =
      .error .mismatch := by
  let nested : Tree := .array [.object [], .integer 1]
  let identifier : String × Tree := ("identifier", .text "x")
  let legacyId : String × Tree := ("legacy_id", .integer (-5))
  have hnested : Written nested _ :=
    .array (.full (.more blank_nil (.object (.empty blank_nil)) blank_nil
      (.plain (.integer rfl))))
  have hx := writesText_writeString "x"
  have ha := writesText_writeString "a"
  have hidentifier := writesText_writeString "identifier"
  have hlegacyId := writesText_writeString "legacy_id"
  have hboth : Document (ObjectOf Written) [("a", nested), legacyId, identifier]
      "\x7b\"a\":[\x7b\x7d,1],\"legacy_id\":-5,\"identifier\":\"x\"\x7d" := by
    have hwritten : ObjectOf Written [("a", nested), legacyId, identifier] _ :=
      .full (.more (.plain ha hnested) (.more (.plain hlegacyId (.integer rfl))
        (.last (.plain hidentifier (.text hx)))))
    exact .plain hwritten (by decide)
  have hpair : Document (ArrayOf Written) [.text "x", .integer (-5)] "[\"x\",-5]" := by
    have hwritten : ArrayOf Written [.text "x", .integer (-5)] _ :=
      .full (.more blank_nil (.text hx) blank_nil (.plain (.integer rfl)))
    exact .plain hwritten (by decide)
  have hone : Document (ObjectOf Written) [("a", nested), identifier]
      "\x7b\"a\":[\x7b\x7d,1],\"identifier\":\"x\"\x7d" := by
    have hwritten : ObjectOf Written [("a", nested), identifier] _ :=
      .full (.more (.plain ha hnested) (.last (.plain hidentifier (.text hx))))
    exact .plain hwritten (by decide)
  have hagain : Document (ObjectOf Written)
      [identifier, ("a", nested), ("identifier", .literal .null)]
      "\x7b\"identifier\":\"x\",\"a\":[\x7b\x7d,1],\"identifier\":null\x7d" := by
    have hwritten : ObjectOf Written
        [identifier, ("a", nested), ("identifier", .literal .null)] _ :=
      .full (.more (.plain hidentifier (.text hx)) (.more (.plain ha hnested)
        (.last (.plain hidentifier (.literal .null)))))
    exact .plain hwritten (by decide)
  obtain ⟨hread, hreadPair, hmissed, hrepeated⟩ :=
    entry_of_documents ⟨"x", -5⟩ [("a", nested)] (by simp)
  have hreversed := List.reverse_perm [identifier, legacyId, ("a", nested)]
  have hkept := List.sublist_append_left [identifier] [legacyId]
  have hne : [identifier] ≠ ownMembers ⟨"x", -5⟩ := nofun
  have hswapped : [("a", nested), identifier].Perm [identifier, ("a", nested)] := .swap _ _ _
  have hlast : [identifier, ("a", nested), legacyId].Perm [identifier, legacyId, ("a", nested)] :=
    .cons _ (.swap _ _ _)
  refine ⟨hread _ _ hreversed hboth, hreadPair _ hpair, ?_, ?_⟩
  · exact hmissed _ _ _ hkept hne hswapped hone
  · exact hrepeated [identifier, ("a", nested)] [legacyId] _ _ [] _ hlast (.inl rfl)
      List.mem_cons_self hagain

end RegistryTables.Json
