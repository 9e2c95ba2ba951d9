import RegistryTables.Proofs.Json.Tokens
import RegistryTables.Json.Shape

/-
  A shape reads exactly the texts that are written for its values.

  `Shape.Fits` says so of a shape and a way to write: whatever is written for a value is read
  as that value, with any rest behind it, and what is read was written, behind white space.
  Strings and numeric ids fit (`fits_text`, `fits_legacyId`), and arrays and objects fit as
  soon as their elements do (`Fits.array`, `Fits.object`). For a text as a whole both
  directions are one: it is read as a value exactly if it is a document of that value
  (`Fits.readText_eq_ok_iff`). -/
namespace RegistryTables.Json.Shape

variable {α : Type} {e : Shape α} {writes : α → List Char → Prop}

/-- The shape reads the values that are written in this way, and no text but theirs. -/
structure Fits (e : Shape α) (writes : α → List Char → Prop) : Prop where
  complete : ∀ {a w}, writes a w → ∀ {rest}, EndsNumeral rest →
    e.read (tokens (w ++ rest)) = .ok (a, tokens rest)
  sound : ∀ {s a ts}, e.read (tokens s) = .ok (a, ts) →
    ∃ before w rest, Blank before ∧ writes a w ∧ s = before ++ (w ++ rest) ∧ ts = tokens rest
  /-- No value starts with the bracket that closes an array. -/
  notClosed : ∀ {ts a rest}, e.read (.closeArray :: ts) ≠ .ok (a, rest)

theorem fits_text : Fits text WritesText where
  complete := by
    intro a w hw rest _
    rw [hw.tokens_append]
    rfl
  sound := by
    intro s a ts h
    simp only [text] at h
    split at h
    case h_1 k more hs =>
      cases h
      exact exists_text hs
    case h_2 => cases h
  notClosed := nofun

theorem fits_legacyId : Fits legacyId WritesId where
  complete := by
    rintro l w rfl rest hrest
    rw [tokens_integer l.natAbs_toInt_lt hrest]
    simp only [legacyId, LegacyId.ofInt?_toInt]
  sound := by
    intro s l ts h
    simp only [legacyId] at h
    split at h
    case h_1 n more hs =>
      split at h
      case h_1 l' hl =>
        cases h
        rw [WritesId, LegacyId.toInt_of_ofInt? hl]
        exact exists_integer hs
      case h_2 => cases h
    case h_2 => cases h
  notClosed := nofun

/-! Arrays. -/

theorem elements_eq (e : Shape α) (ts : List Token) :
    e.elements ts = (do
      let (a, rest) ← e.read ts
      match rest with
      | .comma :: rest => do
        let (as, rest) ← e.elements rest
        .ok (a :: as, rest)
      | .closeArray :: rest => .ok ([a], rest)
      | rest => .error (unexpected rest)) := by
  rw [elements]
  split
  case h_1 fault h => rw [h]; rfl
  case h_2 a rest h => rw [h]; rfl
  case h_3 a rest h => rw [h]; rfl
  case h_4 a rest hcomma hclose h =>
    rw [h]
    simp only [bind, Except.bind]

theorem Fits.elements_complete (hfits : e.Fits writes) {as : List α} {w : List Char}
    (hw : Elements writes as w) (rest : List Char) :
    e.elements (tokens (w ++ ']' :: rest)) = .ok (as, tokens rest) := by
  induction hw with
  | @last a before core after hbefore hcore hafter =>
    have hends : EndsNumeral (after ++ ']' :: rest) :=
      hafter.endsNumeral (endsNumeral_punctuation rfl _)
    have hread : e.read (tokens (before ++ (core ++ after) ++ ']' :: rest)) =
        .ok (a, .closeArray :: tokens rest) := by
      rw [List.append_assoc, tokens_blank hbefore, List.append_assoc, hfits.complete hcore hends,
        tokens_blank hafter, tokens_punctuation rfl]
    rw [elements_eq, hread]
    rfl
  | @more a as before core after ws hbefore hcore hafter _ ih =>
    have hends : EndsNumeral (after ++ ',' :: (ws ++ ']' :: rest)) :=
      hafter.endsNumeral (endsNumeral_punctuation rfl _)
    have hread : e.read (tokens (before ++ (core ++ (after ++ ',' :: ws)) ++ ']' :: rest)) =
        .ok (a, .comma :: tokens (ws ++ ']' :: rest)) := by
      rw [List.append_assoc, tokens_blank hbefore, List.append_assoc, List.append_assoc,
        List.cons_append, hfits.complete hcore hends, tokens_blank hafter, tokens_punctuation rfl]
    rw [elements_eq, hread]
    simp only [bind, Except.bind, ih]

theorem Fits.elements_sound (hfits : e.Fits writes) {s : List Char} {as : List α}
    {ts : List Token} (h : e.elements (tokens s) = .ok (as, ts)) :
    ∃ w rest, Elements writes as w ∧ s = w ++ ']' :: rest ∧ ts = tokens rest := by
  -- By the length of the text: what stands behind a comma is shorter.
  induction hn : s.length using Nat.strongRecOn generalizing s as with
  | ind n ih =>
    rw [elements_eq] at h
    obtain ⟨⟨a, behind⟩, hread, hnext⟩ := exists_of_bind_eq_ok h
    obtain ⟨before, core, more, hbefore, hcore, rfl, hmore⟩ := hfits.sound hread
    simp only at hnext
    split at hnext
    case h_1 behind =>
      obtain ⟨after, rest, hafter, rfl, rfl⟩ := exists_mark hmore.symm (c := ',') rfl
      obtain ⟨⟨as, ts⟩, hmany, hdone⟩ := exists_of_bind_eq_ok hnext
      cases hdone
      have hlt : rest.length < n := by
        rw [← hn]
        simp only [List.length_append, List.length_cons]
        omega
      obtain ⟨ws, rest, hws, rfl, hts⟩ := ih _ hlt hmany rfl
      exact ⟨_, rest, .more hbefore hcore hafter hws, by simp, hts⟩
    case h_2 behind =>
      cases hnext
      obtain ⟨after, rest, hafter, rfl, hts⟩ := exists_mark hmore.symm (c := ']') rfl
      exact ⟨_, rest, .last hbefore hcore hafter, by simp, hts⟩
    case h_3 => cases hnext

/-- Where elements stand, the array is not over yet. -/
theorem Fits.elements_notClosed (hfits : e.Fits writes) {ts rest more : List Token} {as : List α}
    (h : e.elements ts = .ok (as, rest)) : ts ≠ .closeArray :: more := by
  rintro rfl
  rw [elements_eq] at h
  obtain ⟨p, hread, -⟩ := exists_of_bind_eq_ok h
  exact hfits.notClosed hread

theorem Fits.array_complete (hfits : e.Fits writes) {as : List α} {w : List Char}
    (hw : ArrayOf writes as w) (rest : List Char) :
    e.array.read (tokens (w ++ rest)) = .ok (as, tokens rest) := by
  cases hw with
  | @empty blank hblank =>
    rw [hblank.tokens_enclosed rfl rfl]
    rfl
  | @full _ w hw =>
    have hread := hfits.elements_complete hw rest
    rw [tokens_enclosed rfl]
    simp only [array]
    split
    case h_1 more hmore => exact absurd (List.cons.inj hmore).2 (hfits.elements_notClosed hread)
    case h_2 more _ hmore => rwa [← (List.cons.inj hmore).2]
    case h_3 hopen => exact absurd rfl (hopen _)

theorem Fits.array (hfits : e.Fits writes) : e.array.Fits (ArrayOf writes) where
  complete hw _ _ := hfits.array_complete hw _
  sound := by
    intro s as ts h
    simp only [Shape.array] at h
    split at h
    case h_1 more hs =>
      cases h
      obtain ⟨before, rest, hbefore, rfl, hmore⟩ := exists_mark hs (c := '[') rfl
      obtain ⟨blank, rest, hblank, rfl, hts⟩ := exists_mark hmore.symm (c := ']') rfl
      exact ⟨before, _, rest, hbefore, .empty hblank, by simp, hts⟩
    case h_2 more _ hs =>
      obtain ⟨before, rest, hbefore, rfl, hmore⟩ := exists_mark hs (c := '[') rfl
      rw [hmore] at h
      obtain ⟨w, rest, hw, rfl, hts⟩ := hfits.elements_sound h
      exact ⟨before, _, rest, hbefore, .full hw, by simp, hts⟩
    case h_3 => cases h
  notClosed := nofun

/-! Objects. -/

theorem readKey_complete {k : String} {key : List Char} (hkey : Spaced (WritesText k) key)
    (rest : List Char) : readKey (tokens (key ++ ':' :: rest)) = .ok (k, tokens rest) := by
  rw [tokens_key hkey]
  rfl

theorem readKey_sound {s : List Char} {k : String} {ts : List Token}
    (h : readKey (tokens s) = .ok (k, ts)) :
    ∃ key rest, Spaced (WritesText k) key ∧ s = key ++ ':' :: rest ∧ ts = tokens rest := by
  unfold readKey at h
  split at h
  case h_1 k' ts' hs =>
    cases h
    obtain ⟨before, core, rest, hbefore, hcore, rfl, hmore⟩ := exists_text hs
    obtain ⟨after, rest, hafter, rfl, hts⟩ := exists_mark hmore.symm (c := ':') rfl
    exact ⟨_, rest, .around hbefore hcore hafter, by simp, hts⟩
  all_goals cases h

theorem members_eq (e : Shape α) (ts : List Token) :
    e.members ts = (do
      let (k, ts) ← readKey ts
      let (a, rest) ← e.read ts
      match rest with
      | .comma :: rest => do
        let (es, rest) ← e.members rest
        .ok ((k, a) :: es, rest)
      | .closeObject :: rest => .ok ([(k, a)], rest)
      | rest => .error (unexpected rest)) := by
  rw [members]
  split
  case h_1 fault h => rw [h]; rfl
  case h_2 k ts' hk =>
    rw [hk]
    simp only [bind, Except.bind]
    split
    case h_1 fault h => rw [h]
    case h_2 a rest h => rw [h]
    case h_3 a rest h => rw [h]
    case h_4 a rest hcomma hclose h =>
      rw [h]
      simp only

/-- A member in front is read, and the mark behind it decides whether the object goes on. -/
theorem Fits.members_member (hfits : e.Fits writes) {k : String} {a : α} {w : List Char}
    (hw : Member writes (k, a) w) {behind : List Char} (hends : EndsNumeral behind) :
    e.members (tokens (w ++ behind)) =
      match tokens behind with
      | .comma :: rest => do
        let (es, rest) ← e.members rest
        .ok ((k, a) :: es, rest)
      | .closeObject :: rest => .ok ([(k, a)], rest)
      | rest => .error (unexpected rest) := by
  obtain ⟨hkey, hbefore, hcore, hafter⟩ := hw
  rename_i key before core after
  have hread : e.read (tokens (before ++ (core ++ after) ++ behind)) = .ok (a, tokens behind) := by
    rw [List.append_assoc, tokens_blank hbefore, List.append_assoc,
      hfits.complete hcore (hafter.endsNumeral hends), tokens_blank hafter]
  rw [members_eq, List.append_assoc, List.cons_append, readKey_complete hkey]
  simp only [bind, Except.bind, hread]

theorem Fits.members_complete (hfits : e.Fits writes) {ms : List (String × α)} {w : List Char}
    (hw : Members writes ms w) (rest : List Char) :
    e.members (tokens (w ++ '}' :: rest)) = .ok (ms, tokens rest) := by
  induction hw with
  | last hm =>
    rw [hfits.members_member hm (endsNumeral_punctuation rfl _), tokens_punctuation rfl]
  | more hm _ ih =>
    rw [List.append_assoc, List.cons_append,
      hfits.members_member hm (endsNumeral_punctuation rfl _), tokens_punctuation rfl]
    simp only [bind, Except.bind, ih]

theorem Fits.members_sound (hfits : e.Fits writes) {s : List Char} {ms : List (String × α)}
    {ts : List Token} (h : e.members (tokens s) = .ok (ms, ts)) :
    ∃ w rest, Members writes ms w ∧ s = w ++ '}' :: rest ∧ ts = tokens rest := by
  -- By the length of the text, as for elements.
  induction hn : s.length using Nat.strongRecOn generalizing s ms with
  | ind n ih =>
    rw [members_eq] at h
    obtain ⟨⟨k, ts'⟩, hkey, hvalue⟩ := exists_of_bind_eq_ok h
    obtain ⟨⟨a, behind⟩, hread, hnext⟩ := exists_of_bind_eq_ok hvalue
    obtain ⟨key, value, hkeyed, rfl, rfl⟩ := readKey_sound hkey
    obtain ⟨before, core, more, hbefore, hcore, rfl, hmore⟩ := hfits.sound hread
    simp only at hnext
    split at hnext
    case h_1 behind =>
      obtain ⟨after, rest, hafter, rfl, rfl⟩ := exists_mark hmore.symm (c := ',') rfl
      obtain ⟨⟨ms, ts⟩, hmany, hdone⟩ := exists_of_bind_eq_ok hnext
      cases hdone
      have hlt : rest.length < n := by
        rw [← hn]
        simp only [List.length_append, List.length_cons]
        omega
      obtain ⟨ws, rest, hws, rfl, hts⟩ := ih _ hlt hmany rfl
      exact ⟨_, rest, .more (.keyed hkeyed hbefore hcore hafter) hws, by simp, hts⟩
    case h_2 behind =>
      cases hnext
      obtain ⟨after, rest, hafter, rfl, hts⟩ := exists_mark hmore.symm (c := '}') rfl
      exact ⟨_, rest, .last (.keyed hkeyed hbefore hcore hafter), by simp, hts⟩
    case h_3 => cases hnext

/-- Where members stand, the object is not over yet. -/
theorem object_read_members {ms : List (String × α)} {w : List Char} (hw : Members writes ms w)
    {β : Type} (e : Shape β) (rest : List Char) :
    e.object.read (tokens ('{' :: (w ++ rest))) = e.members (tokens (w ++ rest)) := by
  obtain ⟨k, key, value, hkey, rfl⟩ := hw.exists_key
  have hread := readKey_complete hkey (value ++ rest)
  rw [tokens_punctuation rfl, List.append_assoc, List.cons_append]
  simp only [object]
  split
  case h_1 more hmore =>
    rw [(List.cons.inj hmore).2] at hread
    cases hread
  case h_2 more _ hmore => rw [(List.cons.inj hmore).2]
  case h_3 hopen => exact absurd rfl (hopen _)

theorem Fits.object_complete (hfits : e.Fits writes) {ms : List (String × α)} {w : List Char}
    (hw : ObjectOf writes ms w) (rest : List Char) :
    e.object.read (tokens (w ++ rest)) = .ok (ms, tokens rest) := by
  cases hw with
  | @empty blank hblank =>
    rw [hblank.tokens_enclosed rfl rfl]
    rfl
  | @full _ w hw =>
    rw [List.cons_append, List.append_assoc, List.singleton_append, object_read_members hw,
      hfits.members_complete hw]

theorem Fits.object (hfits : e.Fits writes) : e.object.Fits (ObjectOf writes) where
  complete hw _ _ := hfits.object_complete hw _
  sound := by
    intro s ms ts h
    simp only [Shape.object] at h
    split at h
    case h_1 more hs =>
      cases h
      obtain ⟨before, rest, hbefore, rfl, hmore⟩ := exists_mark hs (c := '{') rfl
      obtain ⟨blank, rest, hblank, rfl, hts⟩ := exists_mark hmore.symm (c := '}') rfl
      exact ⟨before, _, rest, hbefore, .empty hblank, by simp, hts⟩
    case h_2 more _ hs =>
      obtain ⟨before, rest, hbefore, rfl, hmore⟩ := exists_mark hs (c := '{') rfl
      rw [hmore] at h
      obtain ⟨w, rest, hw, rfl, hts⟩ := hfits.members_sound h
      exact ⟨before, _, rest, hbefore, .full hw, by simp, hts⟩
    case h_3 => cases h
  notClosed := nofun

/-! Whole texts. -/

theorem readText_eq_ok {text : String} {a : α} :
    e.readText text = .ok a ↔ e.read (tokens text.toList) = .ok (a, []) := by
  unfold readText
  split <;> simp_all

theorem readText_map {β : Type} (f : α → β) (e : Shape α) (text : String) :
    (e.map f).readText text = (e.readText text).map f := by
  simp only [readText, map]
  cases e.read (tokens text.toList) with
  | error fault => rfl
  | ok p =>
    obtain ⟨a, rest⟩ := p
    cases rest with
    | nil => rfl
    | cons t ts => rfl

/-- A whole text is read as a value exactly if it is written for that value. -/
theorem Fits.readText_eq_ok_iff (hfits : e.Fits writes) {text : String} {a : α} :
    e.readText text = .ok a ↔ Document writes a text := by
  rw [readText_eq_ok]
  constructor
  · intro h
    obtain ⟨before, core, rest, hbefore, hcore, hs, hrest⟩ := hfits.sound h
    rw [Document, hs]
    exact .around hbefore hcore (blank_of_tokens_eq_nil hrest.symm)
  · intro h
    obtain ⟨core, after, hcore, hafter, htokens⟩ := h.exists_tokens
    have hends : EndsNumeral after := by
      simpa using hafter.endsNumeral endsNumeral_nil
    rw [htokens, hfits.complete hcore hends, hafter.tokens_eq_nil]

end RegistryTables.Json.Shape
