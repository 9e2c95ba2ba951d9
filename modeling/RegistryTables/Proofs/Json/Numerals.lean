import RegistryTables.Json.Token

/-
  Numbers in JSON as texts: a minus, digits before the point, and perhaps a fraction and an
  exponent, in that order and with nothing between them.

  A numeral ends where the text goes on with something that no numeral goes on with, so
  every statement is about a text with a rest behind it. Each part has to end as well: the
  digits where no digit follows, the fraction where no digit and no point does.

  What is proved:
    1. `Digits.digits_append`, `WholeDigits.append`, `WritesFraction.append`,
       `WritesExponent.append` — each part is taken as far as it goes, and the rest is left.
    2. `WritesNumeral.scanNumber_append` — so the scanner takes the whole numeral.
    3. `exists_writesNumeral` — and what it takes is always the text of one. -/
namespace RegistryTables.Json

/-! The grammar. -/

/-- One digit or more. -/
structure Digits (ds : List Char) : Prop where
  ne_nil : ds ≠ []
  isDigit : ∀ d ∈ ds, d.isDigit = true

theorem digits_iff {ds : List Char} : Digits ds ↔ ds ≠ [] ∧ ds.all Char.isDigit = true := by
  rw [List.all_eq_true]
  exact ⟨fun h => ⟨h.ne_nil, h.isDigit⟩, fun h => ⟨h.1, h.2⟩⟩

/-- The digits before the point: no zero in front, unless it is the only digit. -/
structure WholeDigits (ds : List Char) : Prop extends Digits ds where
  front : ds = ['0'] ∨ ds.head? ≠ some '0'

/-- The digits of a fraction behind their point. There may be no fraction. -/
inductive WritesFraction : List Char → List Char → Prop where
  | none : WritesFraction [] []
  | point {ds : List Char} : Digits ds → WritesFraction ds ('.' :: ds)

/-- The sign of an exponent, and whether it is a minus. -/
inductive WritesSign : Bool → List Char → Prop where
  | minus : WritesSign true ['-']
  | plus : WritesSign false ['+']
  | none : WritesSign false []

/-- The sign and the digits of an exponent behind their letter. There may be no exponent. -/
inductive WritesExponent : Bool → List Char → List Char → Prop where
  | none : WritesExponent false [] []
  | power {letter : Char} {negative : Bool} {sign ds : List Char} :
      letter = 'e' ∨ letter = 'E' → WritesSign negative sign → Digits ds →
        WritesExponent negative ds (letter :: (sign ++ ds))

def minusSign (negative : Bool) : List Char := if negative then ['-'] else []

/-- The texts of a numeral. -/
inductive WritesNumeral (n : Numeral) : List Char → Prop where
  | parts {fraction exponent : List Char} : WholeDigits n.whole →
      WritesFraction n.fraction fraction →
      WritesExponent n.exponentNegative n.exponent exponent →
        WritesNumeral n (minusSign n.negative ++ (n.whole ++ (fraction ++ exponent)))

/-! Where the parts end. -/

/-- No digit follows. -/
def EndsDigits (s : List Char) : Prop := ∀ c ∈ s.head?, c.isDigit = false

/-- A numeral in front of the text ends there. -/
def EndsNumeral (s : List Char) : Prop :=
  ∀ c ∈ s.head?, c.isDigit = false ∧ c ≠ '.' ∧ c ≠ 'e' ∧ c ≠ 'E'

theorem endsNumeral_nil : EndsNumeral [] := by
  rintro c ⟨⟩

/-- A numeral ends at every mark. -/
theorem endsNumeral_punctuation {c : Char} {t : Token} (h : punctuation? c = some t)
    (s : List Char) : EndsNumeral (c :: s) := by
  rintro c ⟨⟩
  unfold punctuation? at h
  split at h
  case h_7 => cases h
  all_goals decide

theorem EndsNumeral.endsDigits {s : List Char} (h : EndsNumeral s) : EndsDigits s :=
  fun c hc => (h c hc).1

theorem EndsNumeral.head?_ne {s : List Char} (h : EndsNumeral s) : s.head? ≠ some '.' :=
  fun hc => (h '.' hc).2.1 rfl

section

variable {w ds rest : List Char} {negative : Bool}

/-- The digits before an exponent end there, and a fraction does. -/
theorem WritesExponent.ends (h : WritesExponent negative ds w) (hrest : EndsNumeral rest) :
    EndsDigits (w ++ rest) ∧ (w ++ rest).head? ≠ some '.' := by
  cases h with
  | none => exact ⟨hrest.endsDigits, hrest.head?_ne⟩
  | power hletter _ _ =>
    rcases hletter with rfl | rfl
    · exact ⟨by rintro c ⟨⟩; decide, by simp⟩
    · exact ⟨by rintro c ⟨⟩; decide, by simp⟩

theorem WritesFraction.endsDigits (h : WritesFraction ds w) (hrest : EndsDigits rest) :
    EndsDigits (w ++ rest) := by
  cases h with
  | none => exact hrest
  | point _ =>
    rintro c ⟨⟩
    decide

/-- Digits are written wherever there are any. -/
theorem WritesFraction.eq_nil (h : WritesFraction ds w) (hds : ds = []) : w = [] := by
  cases h with
  | none => rfl
  | point hdigits => exact absurd hds hdigits.ne_nil

theorem WritesExponent.eq_nil (h : WritesExponent negative ds w) (hds : ds = []) : w = [] := by
  cases h with
  | none => rfl
  | power _ _ hdigits => exact absurd hds hdigits.ne_nil

/-! What is read of each part. -/

theorem Digits.digits_append (h : Digits ds) (hrest : EndsDigits rest) :
    digits (ds ++ rest) = .ok (ds, rest) := by
  have hends : rest.takeWhile Char.isDigit = [] ∧ rest.dropWhile Char.isDigit = rest := by
    cases rest with
    | nil => exact ⟨rfl, rfl⟩
    | cons c rest => simp [hrest c rfl]
  have htake : (ds ++ rest).takeWhile Char.isDigit = ds := by
    rw [List.takeWhile_append_of_pos h.isDigit, hends.1, List.append_nil]
  have hdrop : (ds ++ rest).dropWhile Char.isDigit = rest := by
    rw [List.dropWhile_append_of_pos h.isDigit, hends.2]
  simp [digits, htake, hdrop, h.ne_nil]

/-- What starts with digits starts with one. -/
theorem Digits.exists_cons (h : Digits ds) : ∃ d s, ds = d :: s ∧ d.isDigit = true := by
  obtain ⟨d, s, rfl⟩ := List.exists_cons_of_ne_nil h.ne_nil
  exact ⟨d, s, rfl, h.isDigit d List.mem_cons_self⟩

theorem WholeDigits.append (h : WholeDigits ds) (hrest : EndsDigits rest) :
    wholeDigits (ds ++ rest) = .ok (ds, rest) := by
  simp only [wholeDigits, h.digits_append hrest, bind, Except.bind]
  split
  case h_1 d s =>
    -- A zero in front is the only digit.
    rcases h.front with hone | hfront
    · cases hone
    · exact absurd rfl hfront
  case h_2 => rfl

theorem WritesFraction.append (h : WritesFraction ds w) (hrest : EndsDigits rest)
    (hpoint : rest.head? ≠ some '.') : fractionDigits (w ++ rest) = .ok (ds, rest) := by
  cases h with
  | none =>
    rw [List.nil_append]
    unfold fractionDigits
    split
    case h_1 => exact absurd rfl hpoint
    case h_2 => rfl
  | point hds => exact hds.digits_append hrest

/-- A sign is told from the digits behind it. -/
theorem WritesSign.afterSign_append {sign : List Char} (h : WritesSign negative sign)
    (hds : Digits ds) (rest : List Char) :
    afterSign (sign ++ (ds ++ rest)) = (negative, ds ++ rest) := by
  cases h with
  | minus => rfl
  | plus => rfl
  | none =>
    obtain ⟨d, s, rfl, hd⟩ := hds.exists_cons
    rw [List.nil_append, List.cons_append]
    unfold afterSign
    split
    case h_1 heq =>
      cases heq
      exact absurd hd (by decide)
    case h_2 heq =>
      cases heq
      exact absurd hd (by decide)
    case h_3 => rfl

theorem WritesExponent.append (h : WritesExponent negative ds w) (hrest : EndsNumeral rest) :
    exponentDigits (w ++ rest) = .ok ((negative, ds), rest) := by
  cases h with
  | none =>
    rw [List.nil_append]
    unfold exponentDigits
    split
    case h_1 s => exact absurd rfl (hrest 'e' rfl).2.2.1
    case h_2 s => exact absurd rfl (hrest 'E' rfl).2.2.2
    case h_3 => rfl
  | @power letter _ sign _ hletter hsign hds =>
    have hafter := hsign.afterSign_append hds rest
    have hdigits := hds.digits_append hrest.endsDigits
    rw [List.cons_append, List.append_assoc]
    rcases hletter with rfl | rfl
    · simp only [exponentDigits, hafter, hdigits, bind, Except.bind]
    · simp only [exponentDigits, hafter, hdigits, bind, Except.bind]

theorem Digits.afterMinus_append (h : Digits ds) (negative : Bool) (rest : List Char) :
    afterMinus (minusSign negative ++ (ds ++ rest)) = (negative, ds ++ rest) := by
  cases negative with
  | true => rfl
  | false =>
    -- The first digit is no minus.
    obtain ⟨d, s, rfl, hd⟩ := h.exists_cons
    show afterMinus (d :: (s ++ rest)) = (false, d :: (s ++ rest))
    unfold afterMinus
    split
    case h_1 heq =>
      cases heq
      exact absurd hd (by decide)
    case h_2 => rfl

end

namespace WritesNumeral

variable {n : Numeral} {w rest : List Char}

/-- The scanner takes the whole numeral. -/
theorem scanNumber_append (h : WritesNumeral n w) (hrest : EndsNumeral rest) :
    scanNumber (w ++ rest) = .ok (n, rest) := by
  obtain ⟨hwhole, hfraction, hexponent⟩ := h
  obtain ⟨hends, hpoint⟩ := hexponent.ends hrest
  have hminus := hwhole.afterMinus_append n.negative
  simp only [scanNumber, List.append_assoc, hminus, hwhole.append (hfraction.endsDigits hends),
    hfraction.append hends hpoint, hexponent.append hrest, bind, Except.bind]

/-- A numeral starts with a minus or a digit. -/
theorem exists_cons (h : WritesNumeral n w) :
    ∃ c s, w = c :: s ∧ (c = '-' ∨ c.isDigit = true) := by
  obtain ⟨hwhole, -, -⟩ := h
  cases n.negative with
  | true => exact ⟨'-', _, rfl, .inl rfl⟩
  | false =>
    obtain ⟨d, s, hds, hd⟩ := hwhole.exists_cons
    rw [hds]
    exact ⟨d, _, rfl, .inr hd⟩

end WritesNumeral

/-! What was read of each part. -/

section

variable {s ds rest : List Char}

theorem digits_eq_ok (h : digits s = .ok (ds, rest)) : s = ds ++ rest ∧ Digits ds := by
  unfold digits at h
  split at h
  case isTrue => cases h
  case isFalse hfull =>
    cases h
    exact ⟨List.takeWhile_append_dropWhile.symm,
      digits_iff.2 ⟨by simpa using hfull, List.all_takeWhile⟩⟩

theorem wholeDigits_eq_ok (h : wholeDigits s = .ok (ds, rest)) :
    s = ds ++ rest ∧ WholeDigits ds := by
  obtain ⟨⟨ds, r⟩, hd, h⟩ := exists_of_bind_eq_ok h
  obtain ⟨hs, hdigits⟩ := digits_eq_ok hd
  simp only at h
  split at h
  case h_1 => cases h
  case h_2 hfront =>
    cases h
    refine ⟨hs, hdigits, ?_⟩
    obtain ⟨d, ds, rfl, -⟩ := hdigits.exists_cons
    by_cases hzero : d = '0'
    · subst hzero
      cases ds with
      | nil => exact .inl rfl
      | cons e es => exact absurd rfl (hfront e es)
    · exact .inr (by simpa using hzero)

theorem fractionDigits_eq_ok (h : fractionDigits s = .ok (ds, rest)) :
    ∃ w, s = w ++ rest ∧ WritesFraction ds w := by
  unfold fractionDigits at h
  split at h
  case h_1 s =>
    obtain ⟨rfl, hdigits⟩ := digits_eq_ok h
    exact ⟨'.' :: ds, rfl, .point hdigits⟩
  case h_2 =>
    cases h
    exact ⟨[], rfl, .none⟩

theorem exists_writesSign (s : List Char) :
    ∃ sign, s = sign ++ (afterSign s).2 ∧ WritesSign (afterSign s).1 sign := by
  unfold afterSign
  split
  case h_1 => exact ⟨['-'], rfl, .minus⟩
  case h_2 => exact ⟨['+'], rfl, .plus⟩
  case h_3 => exact ⟨[], rfl, .none⟩

theorem exponentDigits_eq_ok {negative : Bool} (h : exponentDigits s = .ok ((negative, ds), rest)) :
    ∃ w, s = w ++ rest ∧ WritesExponent negative ds w := by
  -- The two letters are followed by the same.
  have hpower : ∀ {letter : Char} {s : List Char}, letter = 'e' ∨ letter = 'E' →
      digits (afterSign s).2 = .ok (ds, rest) →
      ∃ w, letter :: s = w ++ rest ∧ WritesExponent (afterSign s).1 ds w := by
    intro letter s hletter hd
    obtain ⟨hs, hdigits⟩ := digits_eq_ok hd
    obtain ⟨sign, hsign, hwritten⟩ := exists_writesSign s
    refine ⟨letter :: (sign ++ ds), ?_, .power hletter hwritten hdigits⟩
    rw [List.cons_append, List.append_assoc, ← hs, ← hsign]
  unfold exponentDigits at h
  split at h
  case h_1 s =>
    obtain ⟨⟨ds, r⟩, hd, h⟩ := exists_of_bind_eq_ok h
    cases h
    exact hpower (.inl rfl) hd
  case h_2 s =>
    obtain ⟨⟨ds, r⟩, hd, h⟩ := exists_of_bind_eq_ok h
    cases h
    exact hpower (.inr rfl) hd
  case h_3 =>
    cases h
    exact ⟨[], rfl, .none⟩

theorem eq_append_afterMinus (s : List Char) :
    s = minusSign (afterMinus s).1 ++ (afterMinus s).2 := by
  unfold afterMinus
  split
  case h_1 => rfl
  case h_2 => rfl

/-- What the scanner takes is the text of the numeral. -/
theorem exists_writesNumeral {n : Numeral} (h : scanNumber s = .ok (n, rest)) :
    ∃ w, WritesNumeral n w ∧ s = w ++ rest := by
  obtain ⟨⟨whole, s₁⟩, hs, h⟩ := exists_of_bind_eq_ok h
  obtain ⟨⟨fraction, s₂⟩, hs₁, h⟩ := exists_of_bind_eq_ok h
  obtain ⟨⟨⟨negative, exponent⟩, s₃⟩, hs₂, h⟩ := exists_of_bind_eq_ok h
  cases h
  obtain ⟨hs, hwhole⟩ := wholeDigits_eq_ok hs
  obtain ⟨w₁, hs₁, hfraction⟩ := fractionDigits_eq_ok hs₁
  obtain ⟨w₂, hs₂, hexponent⟩ := exponentDigits_eq_ok hs₂
  refine ⟨_, .parts hwhole hfraction hexponent, ?_⟩
  calc s
      = minusSign (afterMinus s).1 ++ (afterMinus s).2 := eq_append_afterMinus s
    _ = minusSign (afterMinus s).1 ++ (whole ++ (w₁ ++ (w₂ ++ rest))) := by rw [hs, hs₁, hs₂]
    _ = minusSign (afterMinus s).1 ++ (whole ++ (w₁ ++ w₂)) ++ rest := by
        simp only [List.append_assoc]

end

end RegistryTables.Json
