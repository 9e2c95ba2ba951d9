import RegistryTables.Proofs.Json.Grammar

/-
  The tokens of a JSON text, one token at a time: what the text starts with gives its
  token, and the tokens of the rest follow.

  White space in front is passed over (`tokens_blank`). Strings may be spelled in any way
  (`tokens_string`); numbers need a rest that ends them (`WritesNumeral.tokens_append`), and
  integers are written in decimal (`tokens_integer`). Back from the tokens: a text without
  tokens is white space (`blank_of_tokens_eq_nil`), and a mark, a string or an integer in
  front of the tokens was written in front of the text, behind white space
  (`exists_writesToken`). -/
namespace RegistryTables.Json

/-! White space. -/

theorem isBlank_iff {c : Char} : isBlank c = true ↔ c = ' ' ∨ c = '\t' ∨ c = '\n' ∨ c = '\r' := by
  simp [isBlank, or_assoc]

theorem tokens_blank {w : List Char} (h : Blank w) (rest : List Char) :
    tokens (w ++ rest) = tokens rest := by
  induction w with
  | nil => rfl
  | cons c w ih =>
    rw [List.cons_append, tokens, if_pos (isBlank_iff.2 (h c List.mem_cons_self))]
    exact ih fun d hd => h d (List.mem_cons_of_mem c hd)

theorem Blank.tokens_eq_nil {w : List Char} (h : Blank w) : tokens w = [] := by
  have htokens := tokens_blank h []
  rwa [List.append_nil, tokens] at htokens

/-- A numeral ends at white space. -/
theorem Blank.endsNumeral {w : List Char} (h : Blank w) {rest : List Char}
    (hrest : EndsNumeral rest) : EndsNumeral (w ++ rest) := by
  cases w with
  | nil => exact hrest
  | cons c w =>
    rintro d ⟨⟩
    rcases h c List.mem_cons_self with rfl | rfl | rfl | rfl
    all_goals decide

/-! The tokens of what is written. -/

theorem tokens_punctuation {c : Char} {t : Token} (h : punctuation? c = some t) (s : List Char) :
    tokens (c :: s) = t :: tokens s := by
  have hblank : isBlank c = false := by
    unfold punctuation? at h
    split at h
    case h_7 => simp at h
    all_goals rfl
  rw [tokens]
  simp only [hblank, h, Bool.false_eq_true, if_false]

/-- What stands between two marks, and the second one in front of the rest. -/
theorem tokens_enclosed {c d : Char} {t : Token} (h : punctuation? c = some t)
    (w rest : List Char) : tokens (c :: (w ++ [d]) ++ rest) = t :: tokens (w ++ d :: rest) := by
  rw [List.cons_append, tokens_punctuation h, List.append_assoc, List.singleton_append]

/-- Two marks with nothing between them. -/
theorem Blank.tokens_enclosed {c d : Char} {t u : Token} {w : List Char} (hw : Blank w)
    (hc : punctuation? c = some t) (hd : punctuation? d = some u) (rest : List Char) :
    tokens (c :: (w ++ [d]) ++ rest) = t :: u :: tokens rest := by
  rw [Json.tokens_enclosed hc, tokens_blank hw, tokens_punctuation hd]

theorem tokens_string {cs w : List Char} (h : SpellsAll cs w) (rest : List Char) :
    tokens ('"' :: (w ++ '"' :: rest)) = .text (some (String.ofList cs)) :: tokens rest := by
  obtain ⟨ps, hscan, hjoin⟩ := h.scanString rest
  rw [tokens, if_neg (by decide)]
  split
  case h_1 t ht => simp [punctuation?] at ht
  rw [if_pos rfl]
  split
  case h_1 qs rest' hq =>
    rw [hscan] at hq
    cases hq
    rw [hjoin]
    rfl
  case h_2 qs fault hq =>
    rw [hscan] at hq
    cases hq

theorem WritesText.tokens_append {k : String} {w : List Char} (h : WritesText k w)
    (rest : List Char) : tokens (w ++ rest) = .text (some k) :: tokens rest := by
  obtain ⟨hspelled⟩ := h
  have htokens := tokens_string hspelled rest
  rw [String.ofList_toList] at htokens
  simpa using htokens

/-- What starts a number starts no other token. -/
theorem starts_number {c : Char} (h : c = '-' ∨ c.isDigit) :
    isBlank c = false ∧ punctuation? c = none ∧ c ≠ '"' := by
  have hne : ∀ d : Char, d ≠ '-' → d.isDigit = false → c ≠ d := by
    rintro d hminus hdigit rfl
    rcases h with h | h
    · exact hminus h
    · rw [h] at hdigit
      cases hdigit
  refine ⟨?_, ?_, hne '"' (by decide) (by decide)⟩
  · simp [isBlank, hne ' ' (by decide) (by decide), hne '\t' (by decide) (by decide),
      hne '\n' (by decide) (by decide), hne '\r' (by decide) (by decide)]
  · unfold punctuation?
    split
    case h_7 => rfl
    all_goals exact absurd rfl (hne _ (by decide) (by decide))

/-- The text of a numeral is one token. -/
theorem WritesNumeral.tokens_append {n : Numeral} {w rest : List Char} (h : WritesNumeral n w)
    (hrest : EndsNumeral rest) : tokens (w ++ rest) = n.token :: tokens rest := by
  have hscan : scanNumber (w ++ rest) = .ok (n, rest) := h.scanNumber_append hrest
  obtain ⟨c, s, rfl, hc⟩ := h.exists_cons
  obtain ⟨hblank, hpunctuation, hquote⟩ := starts_number hc
  have hnumber : (c = '-' || c.isDigit) = true := by simpa using hc
  rw [List.cons_append] at hscan ⊢
  rw [tokens, if_neg (by simp [hblank])]
  split
  case h_1 t ht =>
    rw [hpunctuation] at ht
    cases ht
  rw [if_neg hquote, if_pos hnumber]
  split
  case h_1 numeral rest' hq =>
    rw [hscan] at hq
    cases hq
    rfl
  case h_2 b hq =>
    rw [hscan] at hq
    cases hq

theorem tokens_integer {n : Int} (h : n.natAbs < UInt64.size) {rest : List Char}
    (hrest : EndsNumeral rest) : tokens (integerText n ++ rest) = .integer n :: tokens rest := by
  rw [(writesNumeral_integerText n).tokens_append hrest, token_integerNumeral h]

theorem afterLetters_append (ls rest : List Char) : afterLetters ls (ls ++ rest) = .ok rest := by
  induction ls with
  | nil => rfl
  | cons l ls ih => rwa [List.cons_append, afterLetters, if_pos rfl]

theorem tokens_letters {c : Char} {ls : List Char} (h : literalLetters? c = some ls)
    (rest : List Char) : tokens (c :: (ls ++ rest)) = .literal :: tokens rest := by
  -- The first letter of a literal starts nothing else.
  have hstart : isBlank c = false ∧ punctuation? c = none ∧ c ≠ '"' ∧
      (c = '-' || c.isDigit) = false := by
    unfold literalLetters? at h
    split at h
    case h_4 => cases h
    all_goals decide
  obtain ⟨hblank, hmark, hquote, hnumber⟩ := hstart
  have hafter := afterLetters_append ls rest
  rw [tokens, if_neg (by simp [hblank])]
  split
  case h_1 t ht =>
    rw [hmark] at ht
    cases ht
  rw [if_neg hquote, if_neg (by simp [hnumber])]
  split
  case h_2 hnone =>
    rw [h] at hnone
    cases hnone
  case h_1 ls' hls =>
    cases h.symm.trans hls
    split
    case h_1 rest' hq =>
      cases hafter.symm.trans hq
      rfl
    case h_2 fault hq => cases hafter.symm.trans hq

theorem tokens_literal (l : Literal) (rest : List Char) :
    tokens (l.letters ++ rest) = .literal :: tokens rest := by
  cases l with
  | true => exact tokens_letters (c := 't') rfl rest
  | false => exact tokens_letters (c := 'f') rfl rest
  | null => exact tokens_letters (c := 'n') rfl rest

theorem tokens_key {k : String} {key : List Char} (hkey : Spaced (WritesText k) key)
    (rest : List Char) : tokens (key ++ ':' :: rest) = .text (some k) :: .colon :: tokens rest := by
  obtain ⟨hbefore, hcore, hafter⟩ := hkey
  rw [List.append_assoc, tokens_blank hbefore, List.append_assoc, hcore.tokens_append,
    tokens_blank hafter, tokens_punctuation rfl]

/-- The tokens of a document start with those of its value. -/
theorem Document.exists_tokens {α : Type} {writes : α → List Char → Prop} {a : α} {text : String}
    (h : Document writes a text) : ∃ core after,
      writes a core ∧ Blank after ∧ tokens text.toList = tokens (core ++ after) := by
  rw [Document] at h
  generalize text.toList = s at h ⊢
  obtain ⟨hbefore, hcore, hafter⟩ := h
  exact ⟨_, _, hcore, hafter, tokens_blank hbefore _⟩

/-! From the tokens back to the text. -/

theorem blank_of_tokens_eq_nil {s : List Char} (h : tokens s = []) : Blank s := by
  induction s with
  | nil => exact blank_nil
  | cons c s ih =>
    rw [tokens] at h
    split at h
    case isTrue hc =>
      intro d hd
      rcases List.mem_cons.1 hd with rfl | hd
      · exact isBlank_iff.1 hc
      · exact ih h d hd
    case isFalse hc =>
      -- What is no white space gives a token.
      split at h
      case h_1 => cases h
      repeat' split at h
      all_goals cases h

/-- The texts of a token, if it is a mark, a string that is text, or an integer. -/
inductive WritesToken : Token → List Char → Prop where
  | mark {c : Char} {t : Token} : punctuation? c = some t → WritesToken t [c]
  | text {s : String} {w : List Char} : WritesText s w → WritesToken (.text (some s)) w
  | integer {n : Int} {w : List Char} : WritesInteger n w → WritesToken (.integer n) w

/-- The tokens that `WritesToken` gives texts for. -/
def Token.Plain : Token → Prop
  | .text none | .decimal _ | .literal | .brokenText _ | .broken _ => False
  | _ => True

/-- A scanned string whose token is plain is written in quotes. -/
theorem exists_writesToken_of_scanString {s rest : List Char} {ps : List Piece}
    (hscan : scanString s = .closed ps rest)
    (ht : (Token.text ((join ps).map String.ofList)).Plain) :
    ∃ w, WritesToken (.text ((join ps).map String.ofList)) w ∧ '"' :: s = w ++ rest := by
  cases hjoin : join ps with
  | none =>
    rw [hjoin] at ht
    exact ht.elim
  | some cs =>
    obtain ⟨w, hspelled, rfl⟩ := exists_spellsAll hscan hjoin
    refine ⟨'"' :: (w ++ ['"']), .text (.quoted ?_), by simp⟩
    rwa [String.toList_ofList]

/-- A scanned number whose token is plain is an integer. -/
theorem exists_writesToken_of_scanNumber {s rest : List Char} {n : Numeral}
    (hscan : scanNumber s = .ok (n, rest)) (ht : n.token.Plain) :
    ∃ w, WritesToken n.token w ∧ s = w ++ rest := by
  cases htoken : n.token with
  | integer i => exact ⟨integerText i, .integer rfl, eq_integerText_of_scanNumber hscan htoken⟩
  | decimal overflows =>
    rw [htoken] at ht
    exact ht.elim
  | _ =>
    -- A number is one of the two.
    unfold Numeral.token at htoken
    split at htoken
    case isTrue => cases htoken
    case isFalse => split at htoken <;> cases htoken

/-- A plain token in front was written there, behind white space. -/
theorem exists_writesToken {s : List Char} {t : Token} {ts : List Token}
    (h : tokens s = t :: ts) (ht : t.Plain) : ∃ before w rest,
      Blank before ∧ WritesToken t w ∧ s = before ++ (w ++ rest) ∧ ts = tokens rest := by
  induction s with
  | nil =>
    rw [tokens] at h
    cases h
  | cons c s ih =>
    by_cases hc : isBlank c
    · rw [tokens, if_pos hc] at h
      obtain ⟨before, w, rest, hbefore, hw, rfl, hts⟩ := ih h
      have hblank : Blank [c] := by
        rintro d hd
        exact List.mem_singleton.1 hd ▸ isBlank_iff.1 hc
      exact ⟨[c] ++ before, w, rest, hblank.append hbefore, hw, rfl, hts⟩
    · suffices hfirst : ∃ w rest, WritesToken t w ∧ c :: s = w ++ rest ∧ ts = tokens rest by
        obtain ⟨w, rest, hw, hs, hts⟩ := hfirst
        exact ⟨[], w, rest, blank_nil, hw, hs, hts⟩
      rw [tokens, if_neg hc] at h
      split at h
      case h_1 hmark =>
        cases h
        exact ⟨[c], s, .mark hmark, rfl, rfl⟩
      case h_2 =>
        split at h
        case isTrue hquote =>
          split at h
          case h_1 ps rest hscan =>
            cases h
            obtain ⟨w, hw, hs⟩ := exists_writesToken_of_scanString hscan ht
            exact ⟨w, rest, hw, hquote ▸ hs, rfl⟩
          case h_2 =>
            cases h
            exact ht.elim
        case isFalse =>
          split at h
          case isTrue =>
            split at h
            case h_1 n rest hscan =>
              cases h
              obtain ⟨w, hw, hs⟩ := exists_writesToken_of_scanNumber hscan ht
              exact ⟨w, rest, hw, hs, rfl⟩
            case h_2 =>
              cases h
              exact ht.elim
          -- A literal is not plain, and nor is what is broken.
          case isFalse =>
            repeat' split at h
            all_goals
              cases h
              exact ht.elim

theorem punctuation?_injective {c d : Char} {t : Token} (hc : punctuation? c = some t)
    (hd : punctuation? d = some t) : c = d := by
  unfold punctuation? at hc
  split at hc
  case h_7 => cases hc
  all_goals
    cases hc
    unfold punctuation? at hd
    split at hd
    all_goals cases hd
    rfl

/-- No mark is a string or an integer. -/
theorem punctuation?_ne {c : Char} {t : Token} (h : punctuation? c = some t) :
    t.Plain ∧ (∀ k, t ≠ .text k) ∧ ∀ n, t ≠ .integer n := by
  unfold punctuation? at h
  split at h
  case h_7 => cases h
  all_goals
    cases h
    exact ⟨trivial, nofun, nofun⟩

/-- A mark in front stands there, behind white space. -/
theorem exists_mark {s : List Char} {t : Token} {ts : List Token} (h : tokens s = t :: ts)
    {c : Char} (hc : punctuation? c = some t) :
    ∃ before rest, Blank before ∧ s = before ++ c :: rest ∧ ts = tokens rest := by
  obtain ⟨hplain, htext, hinteger⟩ := punctuation?_ne hc
  obtain ⟨before, w, rest, hbefore, hw, hs, hts⟩ := exists_writesToken h hplain
  cases hw with
  | mark hd =>
    cases punctuation?_injective hc hd
    exact ⟨before, rest, hbefore, hs, hts⟩
  | text => exact absurd rfl (htext _)
  | integer => exact absurd rfl (hinteger _)

/-- A string in front is written there, behind white space. -/
theorem exists_text {s : List Char} {k : String} {ts : List Token}
    (h : tokens s = .text (some k) :: ts) : ∃ before w rest,
      Blank before ∧ WritesText k w ∧ s = before ++ (w ++ rest) ∧ ts = tokens rest := by
  obtain ⟨before, w, rest, hbefore, hw, hs, hts⟩ := exists_writesToken h trivial
  cases hw with
  | text hw => exact ⟨before, w, rest, hbefore, hw, hs, hts⟩
  | mark hc => exact absurd rfl ((punctuation?_ne hc).2.1 _)

/-- An integer in front is written there, behind white space. -/
theorem exists_integer {s : List Char} {n : Int} {ts : List Token}
    (h : tokens s = .integer n :: ts) : ∃ before w rest,
      Blank before ∧ WritesInteger n w ∧ s = before ++ (w ++ rest) ∧ ts = tokens rest := by
  obtain ⟨before, w, rest, hbefore, hw, hs, hts⟩ := exists_writesToken h trivial
  cases hw with
  | integer hw => exact ⟨before, w, rest, hbefore, hw, hs, hts⟩
  | mark hc => exact absurd rfl ((punctuation?_ne hc).2.2 _)

end RegistryTables.Json
