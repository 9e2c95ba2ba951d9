import RegistryTables.Json.Skip
import RegistryTables.Proofs.Json.Tokens

/-
  A value that nobody wants is passed over to its end, and no further.

  The reader keeps the open brackets in a list, so what it does inside a value and what it
  does behind it is one recursion. A text is `Passed` if that recursion, started in front of
  it, arrives behind it with the brackets it started with. Strings, numbers of any size and
  literals are passed; arrays and objects are if what stands in them is, in whatever way it is
  written; so every value of a tree is, to any depth (`Written.passed`), and a reader that
  skips it goes on with what stands behind it (`skip_written`). -/
namespace RegistryTables.Json

/-- The text is passed over to its end, whatever is open around it and stands behind it. -/
def Passed (w : List Char) : Prop :=
  ∀ (pending : List Bracket) {rest : List Char}, EndsNumeral rest →
    skipValue pending (tokens (w ++ rest)) = skipRest pending (tokens rest)

/-! Single tokens. -/

theorem WritesText.passed {s : String} {w : List Char} (hw : WritesText s w) : Passed w := by
  intro pending rest _
  rw [hw.tokens_append, skipValue]

theorem skipValue_numeral (pending : List Bracket) (n : Numeral) (ts : List Token) :
    skipValue pending (n.token :: ts) = skipRest pending ts := by
  unfold Numeral.token
  split
  · rw [skipValue]
  · split <;> rw [skipValue]

theorem WritesNumeral.passed {n : Numeral} {w : List Char} (hw : WritesNumeral n w) :
    Passed w := by
  intro pending rest hrest
  rw [hw.tokens_append hrest, skipValue_numeral]

theorem Literal.passed (l : Literal) : Passed l.letters := by
  intro pending rest _
  rw [tokens_literal, skipValue]

/-! Arrays and objects. -/

section

variable {α : Type} {writes : α → List Char → Prop}

theorem skipValue_elements {as : List α} {w : List Char} (hw : Elements writes as w)
    (hpassed : ∀ a ∈ as, ∀ v, writes a v → Passed v) (pending : List Bracket) (rest : List Char) :
    skipValue (.array :: pending) (tokens (w ++ ']' :: rest)) =
      skipRest pending (tokens rest) := by
  induction hw with
  | @last a before core after hbefore hcore hafter =>
    have hends : EndsNumeral (after ++ ']' :: rest) :=
      hafter.endsNumeral (endsNumeral_punctuation rfl _)
    rw [List.append_assoc, tokens_blank hbefore, List.append_assoc,
      hpassed a List.mem_cons_self core hcore _ hends, tokens_blank hafter,
      tokens_punctuation rfl, skipRest]
  | @more a as before core after ws hbefore hcore hafter _ ih =>
    have hends : EndsNumeral (after ++ ',' :: (ws ++ ']' :: rest)) :=
      hafter.endsNumeral (endsNumeral_punctuation rfl _)
    rw [List.append_assoc, tokens_blank hbefore, List.append_assoc, List.append_assoc,
      List.cons_append, hpassed a List.mem_cons_self core hcore _ hends, tokens_blank hafter,
      tokens_punctuation rfl, skipRest]
    exact ih fun b hb => hpassed b (List.mem_cons_of_mem a hb)

/-- Elements do not start with the bracket that would close their array, for with no brackets
around it they are passed over without a fault. -/
theorem elements_notClosed {as : List α} {w : List Char} (hw : Elements writes as w)
    (hpassed : ∀ a ∈ as, ∀ v, writes a v → Passed v) (rest : List Char) (ts : List Token) :
    tokens (w ++ ']' :: rest) ≠ .closeArray :: ts := by
  intro hclosed
  have hread := skipValue_elements hw hpassed [] rest
  rw [hclosed, skipValue, skipRest] at hread
  cases hread

theorem ArrayOf.passed {as : List α} {w : List Char} (hw : ArrayOf writes as w)
    (hpassed : ∀ a ∈ as, ∀ v, writes a v → Passed v) : Passed w := by
  intro pending rest _
  cases hw with
  | @empty blank hblank =>
    rw [hblank.tokens_enclosed rfl rfl, skipValue]
  | @full _ w hw =>
    rw [tokens_enclosed rfl, skipValue, skipValue_elements hw hpassed]
    exact elements_notClosed hw hpassed rest

/-- A member in front is passed over, and what is left of the object and around it. -/
theorem skipMember_member {m : String × α} {w behind : List Char} (hw : Member writes m w)
    (hpassed : ∀ v, writes m.2 v → Passed v) (hends : EndsNumeral behind)
    (pending : List Bracket) :
    skipMember pending (tokens (w ++ behind)) =
      skipRest (.object :: pending) (tokens behind) := by
  cases hw with
  | keyed hkey hbefore hcore hafter =>
    rw [List.append_assoc, List.cons_append, tokens_key hkey, skipMember, List.append_assoc,
      tokens_blank hbefore, List.append_assoc, hpassed _ hcore _ (hafter.endsNumeral hends),
      tokens_blank hafter]

theorem skipMember_members {ms : List (String × α)} {w : List Char} (hw : Members writes ms w)
    (hpassed : ∀ m ∈ ms, ∀ v, writes m.2 v → Passed v) (pending : List Bracket)
    (rest : List Char) :
    skipMember pending (tokens (w ++ '}' :: rest)) = skipRest pending (tokens rest) := by
  induction hw with
  | @last m w hm =>
    rw [skipMember_member hm (hpassed m List.mem_cons_self) (endsNumeral_punctuation rfl _),
      tokens_punctuation rfl, skipRest]
  | @more m ms w ws hm _ ih =>
    rw [List.append_assoc, List.cons_append,
      skipMember_member hm (hpassed m List.mem_cons_self) (endsNumeral_punctuation rfl _),
      tokens_punctuation rfl, skipRest]
    exact ih fun n hn => hpassed n (List.mem_cons_of_mem m hn)

theorem ObjectOf.passed {ms : List (String × α)} {w : List Char} (hw : ObjectOf writes ms w)
    (hpassed : ∀ m ∈ ms, ∀ v, writes m.2 v → Passed v) : Passed w := by
  intro pending rest _
  cases hw with
  | @empty blank hblank =>
    rw [hblank.tokens_enclosed rfl rfl, skipValue]
  | @full _ w hw =>
    rw [tokens_enclosed rfl, skipValue, skipMember_members hw hpassed]
    -- Members start with a key.
    obtain ⟨k, key, value, hkey, rfl⟩ := hw.exists_key
    intro ts hclosed
    rw [List.append_assoc, List.cons_append, tokens_key hkey] at hclosed
    cases hclosed

end

/-! Whole values. -/

/-- Every value is passed over, to whatever depth it is nested: by recursion on the tree, for
what stands in an array or an object is smaller. -/
theorem Written.passed : ∀ {v : Tree} {w : List Char}, Written v w → Passed w
  | .text _, _, hw => by
    cases hw with
    | text hw => exact hw.passed
  | .integer n, _, hw => by
    cases hw with
    | integer hw => exact hw ▸ (writesNumeral_integerText n).passed
  | .decimal _, _, hw => by
    cases hw with
    | decimal hw _ => exact hw.passed
  | .literal l, _, hw => by
    cases hw with
    | literal => exact l.passed
  | .array ts, _, hw => by
    cases hw with
    | array hw => exact hw.passed fun t ht v hv => Written.passed hv
  | .object ms, _, hw => by
    cases hw with
    | object hw => exact hw.passed fun m hm v hv => Written.passed hv
termination_by v => sizeOf v
decreasing_by
  · have helement := List.sizeOf_lt_of_mem ht
    rw [Tree.array.sizeOf_spec]
    omega
  · obtain ⟨k, value⟩ := m
    have hmember := List.sizeOf_lt_of_mem hm
    rw [Prod.mk.sizeOf_spec] at hmember
    rw [Tree.object.sizeOf_spec]
    show sizeOf value < 1 + sizeOf ms
    omega

/-- Skipping stops where the value ends. -/
theorem skip_written {v : Tree} {w rest : List Char} (hw : Written v w)
    (hrest : EndsNumeral rest) : skip (tokens (w ++ rest)) = .ok (tokens rest) := by
  rw [skip, hw.passed [] hrest, skipRest]

end RegistryTables.Json
