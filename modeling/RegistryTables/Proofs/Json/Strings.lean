import RegistryTables.Json.Text

/-
  Strings in JSON: any spelling of a text is read as that text, nothing else is, and the
  writer spells.

  A character may be spelled as itself, by a short escape, by the number of its code unit,
  or by the two numbers of a surrogate pair. The scanner leaves the numbers as they are and
  `join` makes characters of them, so a spelling is followed through both at once: what the
  scanner finds for one character (`Spells.scanned`) stands in front of what it finds for the
  rest. What is proved:

   1. a spelling of a character is scanned to parts that join to it, whatever follows
      (`Spells.scanned`);
   2. so a spelling of a text is scanned up to its closing quote and joins to the text
      (`SpellsAll.scanString`);
   3. a string that is scanned to its closing quote and joins to a text is a spelling of that
      text (`exists_spellsAll`);
   4. the writer spells every character (`writeChar_spells`) and every text
      (`writeChars_spell`). -/
namespace RegistryTables.Json

/-- The ways to write a character in a string. -/
inductive Spells (c : Char) : List Char → Prop where
  | raw : ¬ c < ' ' → c ≠ '"' → c ≠ '\\' → Spells c [c]
  | short {e : Char} : escaped? e = some c → Spells c ['\\', e]
  | unit {h₁ h₂ h₃ h₄ : Char} : hexNumber? h₁ h₂ h₃ h₄ = some c.toNat →
      Spells c ['\\', 'u', h₁, h₂, h₃, h₄]
  | pair {h₁ h₂ h₃ h₄ l₁ l₂ l₃ l₄ : Char} {high low : Nat} :
      hexNumber? h₁ h₂ h₃ h₄ = some high → isHighSurrogate high →
      hexNumber? l₁ l₂ l₃ l₄ = some low → isLowSurrogate low →
      c.toNat = 0x10000 + (high - 0xD800) * 0x400 + (low - 0xDC00) →
      Spells c ['\\', 'u', h₁, h₂, h₃, h₄, '\\', 'u', l₁, l₂, l₃, l₄]

/-- The ways to write the characters of a text one after the other. -/
inductive SpellsAll : List Char → List Char → Prop where
  | nil : SpellsAll [] []
  | cons {c : Char} {cs w ws : List Char} :
      Spells c w → SpellsAll cs ws → SpellsAll (c :: cs) (w ++ ws)

/-! Single characters. -/

theorem isHighSurrogate_toNat (c : Char) : isHighSurrogate c.toNat = false := by
  have hvalid : c.toNat < 0xD800 ∨ 0xDFFF < c.toNat ∧ c.toNat < 0x110000 := c.valid
  simp only [isHighSurrogate, Bool.and_eq_false_iff, decide_eq_false_iff_not]
  omega

theorem isLowSurrogate_toNat (c : Char) : isLowSurrogate c.toNat = false := by
  have hvalid : c.toNat < 0xD800 ∨ 0xDFFF < c.toNat ∧ c.toNat < 0x110000 := c.valid
  simp only [isLowSurrogate, Bool.and_eq_false_iff, decide_eq_false_iff_not]
  omega

theorem scanString_raw {c : Char} (hctl : ¬ c < ' ') (hquote : c ≠ '"') (hslash : c ≠ '\\')
    (rest : List Char) : scanString (c :: rest) = (scanString rest).cons (.char c) := by
  rw [scanString, if_neg hctl]
  all_goals simp [hquote, hslash]

theorem scanString_short {e c : Char} (h : escaped? e = some c) (rest : List Char) :
    scanString ('\\' :: e :: rest) = (scanString rest).cons (.char c) := by
  have hu : e ≠ 'u' := by
    rintro rfl
    simp [escaped?] at h
  rw [scanString, h]
  all_goals simp [hu]

theorem scanString_unit {a b c d : Char} {n : Nat} (h : hexNumber? a b c d = some n)
    (rest : List Char) :
    scanString ('\\' :: 'u' :: a :: b :: c :: d :: rest) = (scanString rest).cons (.unit n) := by
  rw [scanString, h]

/-- The parts stand in front of those of the scan. -/
def Scan.prepend (ps : List Piece) (s : Scan) : Scan := ps.foldr Scan.cons s

theorem Scan.prepend_closed (ps qs : List Piece) (rest : List Char) :
    (Scan.closed qs rest).prepend ps = .closed (ps ++ qs) rest := by
  induction ps with
  | nil => rfl
  | cons p ps ih => exact congrArg (Scan.cons p) ih

/-- A spelling of a character gives parts that join to it, whatever stands behind. -/
theorem Spells.scanned {c : Char} {w : List Char} (h : Spells c w) :
    ∃ ps : List Piece, (∀ rest, scanString (w ++ rest) = (scanString rest).prepend ps) ∧
      ∀ qs, join (ps ++ qs) = (join qs).map (c :: ·) := by
  cases h with
  | raw hctl hquote hslash =>
    exact ⟨[.char c], scanString_raw hctl hquote hslash, fun _ => rfl⟩
  | short h => exact ⟨[.char c], scanString_short h, fun _ => rfl⟩
  | unit h =>
    refine ⟨[.unit c.toNat], scanString_unit h, fun qs => ?_⟩
    rw [List.singleton_append, join.eq_def]
    simp [isHighSurrogate_toNat, isLowSurrogate_toNat]
  | @pair _ _ _ _ _ _ _ _ high low hh high_ok hl low_ok hc =>
    refine ⟨[.unit high, .unit low], fun rest => ?_, fun qs => ?_⟩
    · simp only [List.cons_append, List.nil_append, scanString_unit hh, scanString_unit hl]
      rfl
    · have hof : ofSurrogates high low = c := by
        rw [ofSurrogates, ← hc, Char.ofNat_toNat]
      simp [join, high_ok, low_ok, hof]

/-- A spelling of a text is scanned up to the quote that closes it, and joins to the text. -/
theorem SpellsAll.scanString {cs w : List Char} (h : SpellsAll cs w) (rest : List Char) :
    ∃ ps, scanString (w ++ '"' :: rest) = .closed ps rest ∧ join ps = some cs := by
  induction h with
  | nil => exact ⟨[], by simp [Json.scanString], rfl⟩
  | @cons c cs w ws hc hcs ih =>
    obtain ⟨ps, hscan, hjoin⟩ := hc.scanned
    obtain ⟨qs, hclosed, htext⟩ := ih
    refine ⟨ps ++ qs, ?_, ?_⟩
    · rw [List.append_assoc, hscan, hclosed, Scan.prepend_closed]
    · rw [hjoin, htext]
      rfl

/-! From the scanned string back to its text. -/

/-- The ways to write one part of a scanned string. -/
inductive WritesPiece : Piece → List Char → Prop where
  | raw {c : Char} : ¬ c < ' ' → c ≠ '"' → c ≠ '\\' → WritesPiece (.char c) [c]
  | short {c e : Char} : escaped? e = some c → WritesPiece (.char c) ['\\', e]
  | unit {a b c d : Char} {n : Nat} : hexNumber? a b c d = some n →
      WritesPiece (.unit n) ['\\', 'u', a, b, c, d]

theorem Scan.cons_eq_closed {p : Piece} {s : Scan} {ps : List Piece} {rest : List Char}
    (h : s.cons p = .closed ps rest) : ∃ qs, ps = p :: qs ∧ s = .closed qs rest := by
  cases s with
  | closed qs r => cases h; exact ⟨qs, rfl, rfl⟩
  | cut qs fault => cases h

/-- A scanned string is over, or its text starts with that of its first part. -/
theorem scanString_eq_closed {s : List Char} {ps : List Piece} {rest : List Char}
    (h : scanString s = .closed ps rest) :
    (ps = [] ∧ s = '"' :: rest) ∨
      ∃ p qs w s', ps = p :: qs ∧ WritesPiece p w ∧ s = w ++ s' ∧
        scanString s' = .closed qs rest := by
  revert h
  fun_cases scanString s with
  | case2 rest' => intro h; cases h; exact .inl ⟨rfl, rfl⟩
  | case3 a b c d s' n hn =>
    intro h
    obtain ⟨qs, rfl, hs'⟩ := Scan.cons_eq_closed h
    exact .inr ⟨.unit n, qs, _, s', rfl, .unit hn, rfl, hs'⟩
  | case6 e s' _ _ c hc =>
    intro h
    obtain ⟨qs, rfl, hs'⟩ := Scan.cons_eq_closed h
    exact .inr ⟨.char c, qs, _, s', rfl, .short hc, rfl, hs'⟩
  | case10 c s' hquote _ _ hescape hend hctl =>
    intro h
    obtain ⟨qs, rfl, hs'⟩ := Scan.cons_eq_closed h
    have hslash : c ≠ '\\' := by
      rintro rfl
      cases s' with
      | nil => exact hend rfl rfl
      | cons e s' => exact hescape e s' rfl rfl
    exact .inr ⟨.char c, qs, _, s', rfl, .raw hctl hquote hslash, rfl, hs'⟩
  -- The others are cut.
  | _ => intro h; cases h

theorem scanString_eq_closed_cons {s : List Char} {p : Piece} {ps : List Piece}
    {rest : List Char} (h : scanString s = .closed (p :: ps) rest) :
    ∃ w s', WritesPiece p w ∧ s = w ++ s' ∧ scanString s' = .closed ps rest := by
  rcases scanString_eq_closed h with ⟨hnil, -⟩ | ⟨q, qs, w, s', heq, hw, hs, hs'⟩
  · cases hnil
  · cases heq
    exact ⟨w, s', hw, hs, hs'⟩

theorem WritesPiece.spells {c : Char} {w : List Char} (h : WritesPiece (.char c) w) :
    Spells c w := by
  cases h with
  | raw hctl hquote hslash => exact .raw hctl hquote hslash
  | short h => exact .short h

theorem WritesPiece.eq_unit {n : Nat} {w : List Char} (h : WritesPiece (.unit n) w) :
    ∃ a b c d, hexNumber? a b c d = some n ∧ w = ['\\', 'u', a, b, c, d] := by
  cases h with
  | unit h => exact ⟨_, _, _, _, h, rfl⟩

theorem hexValue?_lt {c : Char} {n : Nat} (h : hexValue? c = some n) : n < 16 := by
  have hnine : '9'.toNat = '0'.toNat + 9 := rfl
  have hlower : 'f'.toNat = 'a'.toNat + 5 := rfl
  have hupper : 'F'.toNat = 'A'.toNat + 5 := rfl
  unfold hexValue? at h
  split at h
  case isTrue hc =>
    cases h
    have hle : c.toNat ≤ '9'.toNat := hc.2
    omega
  case isFalse =>
    split at h
    case isTrue hc =>
      cases h
      have hle : c.toNat ≤ 'f'.toNat := hc.2
      omega
    case isFalse =>
      split at h
      case isTrue hc =>
        cases h
        have hle : c.toNat ≤ 'F'.toNat := hc.2
        omega
      case isFalse => cases h

theorem hexNumber?_lt {a b c d : Char} {n : Nat} (h : hexNumber? a b c d = some n) :
    n < 0x10000 := by
  simp only [hexNumber?, Option.bind_eq_bind, Option.pure_def, Option.bind_eq_some_iff,
    Option.some.injEq] at h
  obtain ⟨a', ha, b', hb, c', hc, d', hd, rfl⟩ := h
  have hone := hexValue?_lt ha
  have htwo := hexValue?_lt hb
  have hthree := hexValue?_lt hc
  have hfour := hexValue?_lt hd
  omega

/-- A number that is no surrogate is that of a character. -/
theorem toNat_ofNat {n : Nat} (h : n < 0xD800 ∨ 0xDFFF < n ∧ n < 0x110000) :
    (Char.ofNat n).toNat = n := by
  rw [Char.ofNat, dif_pos h]
  rfl

theorem ofSurrogates_toNat {high low : Nat} (hhigh : isHighSurrogate high)
    (hlow : isLowSurrogate low) :
    (ofSurrogates high low).toNat = 0x10000 + (high - 0xD800) * 0x400 + (low - 0xDC00) := by
  simp only [isHighSurrogate, isLowSurrogate, Bool.and_eq_true, decide_eq_true_eq] at hhigh hlow
  refine toNat_ofNat (.inr ?_)
  omega

theorem exists_spellsAll {ps : List Piece} {cs s rest : List Char}
    (h : scanString s = .closed ps rest) (hjoin : join ps = some cs) :
    ∃ w, SpellsAll cs w ∧ s = w ++ '"' :: rest := by
  induction ps using join.induct generalizing s cs with
  | case1 =>
    cases hjoin
    rcases scanString_eq_closed h with ⟨-, rfl⟩ | ⟨p, qs, w, s', heq, -⟩
    · exact ⟨[], .nil, rfl⟩
    · cases heq
  | case2 c ps ih =>
    obtain ⟨w, s', hw, rfl, hs'⟩ := scanString_eq_closed_cons h
    simp only [join, Option.map_eq_some_iff] at hjoin
    obtain ⟨cs', hjoin, rfl⟩ := hjoin
    obtain ⟨ws, hws, rfl⟩ := ih hs' hjoin
    exact ⟨w ++ ws, .cons hw.spells hws, (List.append_assoc ..).symm⟩
  | case3 n hhigh m ps hlow ih =>
    -- A pair.
    obtain ⟨w, s', hw, rfl, hs'⟩ := scanString_eq_closed_cons h
    obtain ⟨v, s'', hv, rfl, hs''⟩ := scanString_eq_closed_cons hs'
    rw [join, if_pos hhigh] at hjoin
    simp only [hlow, if_true, Option.map_eq_some_iff] at hjoin
    obtain ⟨cs', hjoin, rfl⟩ := hjoin
    obtain ⟨ws, hws, rfl⟩ := ih hs'' hjoin
    obtain ⟨_, _, _, _, hhex, rfl⟩ := hw.eq_unit
    obtain ⟨_, _, _, _, hhex', rfl⟩ := hv.eq_unit
    have hpair := Spells.pair hhex hhigh hhex' hlow (ofSurrogates_toNat hhigh hlow)
    exact ⟨_, .cons hpair hws, rfl⟩
  | case4 n hhigh m ps hlow =>
    simp [join, hhigh, hlow] at hjoin
  | case5 n ps hhigh hpair =>
    simp [join, hhigh] at hjoin
  | case6 n ps hhigh hlow =>
    rw [join.eq_def] at hjoin
    simp [hhigh, hlow] at hjoin
  | case7 n ps hhigh hlow ih =>
    obtain ⟨w, s', hw, rfl, hs'⟩ := scanString_eq_closed_cons h
    rw [join.eq_def] at hjoin
    simp only [hhigh, hlow, if_false, Option.map_eq_some_iff, Bool.false_eq_true] at hjoin
    obtain ⟨cs', hjoin, rfl⟩ := hjoin
    obtain ⟨ws, hws, rfl⟩ := ih hs' hjoin
    obtain ⟨_, _, _, _, hhex, rfl⟩ := hw.eq_unit
    have hvalid : n < 0xD800 ∨ 0xDFFF < n ∧ n < 0x110000 := by
      have := hexNumber?_lt hhex
      simp only [isHighSurrogate, isLowSurrogate, Bool.and_eq_true, decide_eq_true_eq]
        at hhigh hlow
      omega
    have hunit : Spells (Char.ofNat n) _ := .unit (by rwa [toNat_ofNat hvalid])
    exact ⟨_, .cons hunit hws, rfl⟩

/-! The writer. -/

/-- The four digits that a control character is written with are those of its number. -/
theorem hexNumber?_digitChars : ∀ n < 0x20,
    hexNumber? '0' '0' (Nat.digitChar (n / 16)) (Nat.digitChar (n % 16)) = some n := by
  decide

theorem writeChar_spells (c : Char) : Spells c (writeChar c) := by
  unfold writeChar
  split
  case h_8 hquote hslash _ _ _ _ _ =>
    split
    case isTrue hctl => exact .unit (hexNumber?_digitChars c.toNat hctl)
    case isFalse hctl => exact .raw hctl hquote hslash
  -- Each of the others has its letter.
  all_goals exact .short rfl

theorem writeChars_spell (cs : List Char) : SpellsAll cs (cs.flatMap writeChar) := by
  induction cs with
  | nil => exact .nil
  | cons c cs ih => exact .cons (writeChar_spells c) ih

end RegistryTables.Json
