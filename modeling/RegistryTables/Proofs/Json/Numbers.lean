import Mathlib.Data.List.Induction
import RegistryTables.LegacyId
import RegistryTables.Proofs.Json.Numerals

/-
  Integers in JSON: the decimal text of an integer of up to 64 bits is one token, and no other
  text is. What is proved:

   1. the decimal text of an integer is the text of a numeral (`writesNumeral_integerText`);
   2. 64 bits are far below what a double holds, so no such number is taken for too large
      (`overflows_of_lt`);
   3. the token of the numeral is the integer (`token_integerNumeral`), and a numeric id is the
      one of its own integer (`LegacyId.ofInt?_toInt`);
   4. an integer by the way it is written has its decimal text (`WritesNumeral.eq_integerText`),
      so a scanned number whose token is an integer is that text
      (`eq_integerText_of_scanNumber`). -/
namespace RegistryTables.Json

/-- The decimal text of an integer. -/
def integerText (n : Int) : List Char :=
  (if n < 0 then ['-'] else []) ++ Nat.toDigits 10 n.natAbs

/-! The text. -/

/-- The text of a number other than zero starts with no zero. -/
theorem head?_toDigits_ne {n : Nat} (hn : 0 < n) : (Nat.toDigits 10 n).head? ≠ some '0' := by
  induction n using Nat.strongRecOn with
  | ind n ih =>
    rw [Nat.toDigits_eq_if (by decide)]
    split
    case isTrue hlt =>
      have hdigit : ∀ m < 10, 0 < m → Nat.digitChar m ≠ '0' := by decide
      simpa using hdigit n hlt hn
    case isFalse hge =>
      have hfront := ih (n / 10) (by omega) (by omega)
      have hfull : Nat.toDigits 10 (n / 10) ≠ [] := Nat.toDigits_ne_nil
      obtain ⟨d, ds, hds⟩ := List.exists_cons_of_ne_nil hfull
      rw [hds] at hfront ⊢
      exact hfront

theorem wholeDigits_toDigits (n : Nat) : WholeDigits (Nat.toDigits 10 n) where
  ne_nil := Nat.toDigits_ne_nil
  isDigit _ hd := Nat.isDigit_of_mem_toDigits (by decide) (by decide) hd
  front := by
    rcases Nat.eq_zero_or_pos n with rfl | hpos
    · exact .inl rfl
    · exact .inr (head?_toDigits_ne hpos)

/-- The numeral that the decimal text of an integer is. -/
def integerNumeral (n : Int) : Numeral :=
  ⟨decide (n < 0), Nat.toDigits 10 n.natAbs, [], false, []⟩

theorem writesNumeral_integerText (n : Int) : WritesNumeral (integerNumeral n) (integerText n) := by
  have hwritten : WritesNumeral (integerNumeral n) _ :=
    .parts (wholeDigits_toDigits n.natAbs) .none .none
  have htext : minusSign (decide (n < 0)) ++ (Nat.toDigits 10 n.natAbs ++ ([] ++ [])) =
      integerText n := by
    simp [minusSign, integerText]
  rwa [← htext]

/-! The size. -/

theorem le_ofDigitChars (ds : List Char) (m : Nat) : m ≤ Nat.ofDigitChars 10 ds m := by
  rw [Nat.ofDigitChars_eq_ofDigitChars_zero]
  exact Nat.le_add_right_of_le (Nat.le_mul_of_pos_left m (Nat.pow_pos (by decide)))

/-- Digits that 64 bits hold are all leading digits. -/
theorem leading_eq : ∀ (ds : List Char) (m : Nat), Nat.ofDigitChars 10 ds m < UInt64.size →
    leading m ds = (Nat.ofDigitChars 10 ds m, 0)
  | [], m, _ => by simp [leading]
  | d :: ds, m, h => by
    rw [Nat.ofDigitChars_cons] at h ⊢
    have hm := Nat.lt_of_le_of_lt (le_ofDigitChars ds _) h
    simp only [leading]
    rw [if_pos hm]
    exact leading_eq ds _ h

theorem doubleNear_le {n : Nat} (hn : 0 < n) : doubleNear n ≤ 2 * n := by
  have hunit : Nat.pow 2 (n.log2 - 52) ≤ n :=
    Nat.le_trans (Nat.pow_le_pow_right (by decide) (Nat.sub_le _ _))
      (Nat.log2_self_le (Nat.pos_iff_ne_zero.1 hn))
  have hdiv : n / Nat.pow 2 (n.log2 - 52) * Nat.pow 2 (n.log2 - 52) ≤ n := Nat.div_mul_le_self _ _
  simp only [doubleNear]
  split
  · rw [Nat.add_mul]
    omega
  · omega

theorem size_lt_doubleLimit : 2 * UInt64.size < doubleLimit := by
  decide +kernel

theorem beyondDouble_of_lt {m : Nat} (h : m < UInt64.size) : beyondDouble m 0 = false := by
  have hone : doubleNear 1 = 1 := by decide
  rcases Nat.eq_zero_or_pos m with rfl | hpos
  · rfl
  · have hlt : doubleNear m < doubleLimit := by
      have := doubleNear_le hpos
      have := size_lt_doubleLimit
      omega
    simp [beyondDouble, hone, hlt]

/-- An integer of 64 bits is not too large for a double. -/
theorem overflows_of_lt {ds : List Char} {negative : Bool}
    (h : Nat.ofDigitChars 10 ds 0 < UInt64.size) :
    (Numeral.mk negative ds [] false []).overflows = false := by
  have hlead : leading 0 (ds ++ []) = (Nat.ofDigitChars 10 ds 0, 0) := by
    rw [List.append_nil, leading_eq ds 0 h]
  rw [Numeral.overflows, hlead]
  exact beyondDouble_of_lt h

theorem token_integerNumeral {n : Int} (h : n.natAbs < UInt64.size) :
    (integerNumeral n).token = .integer n := by
  have hvalue : Nat.ofDigitChars 10 (Nat.toDigits 10 n.natAbs) 0 = n.natAbs :=
    Nat.ofDigitChars_ten_toDigits
  have hof : ofDigits (Nat.toDigits 10 n.natAbs) = n.natAbs := hvalue
  have hfits : (integerNumeral n).overflows = false := overflows_of_lt (by rwa [hvalue])
  have hinteger : (integerNumeral n).isInteger = true := by
    by_cases hn : n < 0
    · -- A negative number is not written as `-0`.
      have hzero : Nat.toDigits 10 n.natAbs ≠ ['0'] := by
        intro heq
        have hpos : 0 < n.natAbs := by omega
        exact head?_toDigits_ne hpos (by rw [heq]; rfl)
      simp [Numeral.isInteger, integerNumeral, hzero]
    · simp [Numeral.isInteger, integerNumeral, hn]
  have htoInt : (integerNumeral n).toInt = n := by
    simp only [Numeral.toInt, integerNumeral, hof, decide_eq_true_eq]
    split <;> omega
  rw [Numeral.token, hfits, hinteger, htoInt]
  rfl

/-! From the numeral back to the integer. -/

theorem digitChar_toNat {d : Char} (h : d.isDigit = true) :
    Nat.digitChar (d.toNat - '0'.toNat) = d ∧ d.toNat - '0'.toNat < 10 := by
  have hall : ∀ n < 10, Nat.digitChar n = Char.ofNat (48 + n) := by decide
  simp only [Char.isDigit, Bool.and_eq_true, decide_eq_true_eq, ge_iff_le,
    UInt32.le_iff_toNat_le] at h
  have hge : 48 ≤ d.toNat := h.1
  have hle : d.toNat ≤ 57 := h.2
  have hzero : '0'.toNat = 48 := rfl
  refine ⟨?_, by omega⟩
  rw [hall _ (by omega), hzero, Nat.add_sub_cancel' hge, Char.ofNat_toNat]

theorem ofDigits_append_singleton (ds : List Char) (d : Char) :
    ofDigits (ds ++ [d]) = 10 * ofDigits ds + (d.toNat - '0'.toNat) := by
  simp [ofDigits]

/-- Digits of which the first is no zero are the decimal text of their number. -/
theorem toDigits_ofDigits {ds : List Char} (hne : ds ≠ []) (hds : ∀ d ∈ ds, d.isDigit = true)
    (hfront : ds.head? ≠ some '0') : Nat.toDigits 10 (ofDigits ds) = ds ∧ 0 < ofDigits ds := by
  induction ds using List.reverseRecOn with
  | nil => exact absurd rfl hne
  | append_singleton ds d ih =>
    obtain ⟨hchar, hlt⟩ := digitChar_toNat (hds d (by simp))
    rw [ofDigits_append_singleton]
    cases hcases : ds with
    | nil =>
      have hpos : d.toNat - '0'.toNat ≠ 0 := by
        intro hz
        rw [hz] at hchar
        simp [hcases, ← hchar] at hfront
      have hone : 10 * ofDigits [] + (d.toNat - '0'.toNat) = d.toNat - '0'.toNat := by
        simp [ofDigits]
      rw [hone, Nat.toDigits_of_lt_base hlt, hchar]
      exact ⟨rfl, Nat.pos_of_ne_zero hpos⟩
    | cons e es =>
      rw [← hcases]
      have hfront' : ds.head? ≠ some '0' := by simpa [hcases] using hfront
      obtain ⟨htext, hpos⟩ := ih (by simp [hcases]) (fun x hx => hds x (by simp [hx])) hfront'
      refine ⟨?_, by omega⟩
      rw [Nat.toDigits_of_base_le (by decide) (by omega)]
      have hdiv : (10 * ofDigits ds + (d.toNat - '0'.toNat)) / 10 = ofDigits ds := by omega
      have hmod : (10 * ofDigits ds + (d.toNat - '0'.toNat)) % 10 = d.toNat - '0'.toNat := by omega
      rw [hdiv, hmod, htext, hchar]

theorem Numeral.isInteger_of_token {n : Numeral} {i : Int} (h : n.token = .integer i) :
    n.isInteger = true ∧ n.toInt = i := by
  unfold Numeral.token at h
  split at h
  case isTrue => cases h
  case isFalse =>
    split at h
    case isTrue hinteger =>
      cases h
      exact ⟨hinteger, rfl⟩
    case isFalse => cases h

/-- An integer by the way it is written has the decimal text of its number. -/
theorem WritesNumeral.eq_integerText {n : Numeral} {w : List Char} (h : WritesNumeral n w)
    (hinteger : n.isInteger = true) : w = integerText n.toInt := by
  obtain ⟨hwhole, hfraction, hexponent⟩ := h
  -- It has no fraction, no exponent, and no minus before a zero.
  simp only [Numeral.isInteger, Bool.and_eq_true, List.isEmpty_iff, Bool.not_eq_true',
    Bool.and_eq_false_iff, beq_eq_false_iff_ne] at hinteger
  obtain ⟨⟨hnofraction, hnoexponent⟩, hzero⟩ := hinteger
  rw [hfraction.eq_nil hnofraction, hexponent.eq_nil hnoexponent, List.append_nil,
    List.append_nil, integerText, minusSign]
  rcases hwhole.front with hone | hfront
  · -- A zero in front is the only digit.
    have hplus : n.negative = false := hzero.resolve_right (absurd hone)
    simp [Numeral.toInt, hplus, hone, ofDigits]
  · obtain ⟨hdecimal, hpos⟩ := toDigits_ofDigits hwhole.ne_nil hwhole.isDigit hfront
    have habs : n.toInt.natAbs = ofDigits n.whole := by
      unfold Numeral.toInt
      split <;> simp
    have hneg : n.toInt < 0 ↔ n.negative = true := by
      unfold Numeral.toInt
      split
      case isTrue hminus => exact iff_of_true (by omega) hminus
      case isFalse hplus => exact iff_of_false (by omega) hplus
    rw [habs, hdecimal]
    simp only [hneg]

/-- A scanned number whose token is an integer is the decimal text of that integer. -/
theorem eq_integerText_of_scanNumber {s rest : List Char} {n : Numeral} {i : Int}
    (h : scanNumber s = .ok (n, rest)) (hi : n.token = .integer i) : s = integerText i ++ rest := by
  obtain ⟨w, hw, rfl⟩ := exists_writesNumeral h
  obtain ⟨hinteger, rfl⟩ := Numeral.isInteger_of_token hi
  rw [hw.eq_integerText hinteger]

end Json

theorem LegacyId.ofInt?_toInt (l : LegacyId) : LegacyId.ofInt? l.toInt = some l := by
  have hge : -2147483648 ≤ l.toInt := Int32.le_toInt l
  have hlt : l.toInt < 2147483648 := Int32.toInt_lt l
  rw [ofInt?, if_pos ⟨hge, by omega⟩, Int32.ofInt_toInt]

theorem LegacyId.toInt_of_ofInt? {n : Int} {l : LegacyId} (h : LegacyId.ofInt? n = some l) :
    l.toInt = n := by
  unfold ofInt? at h
  split at h
  case isTrue hrange =>
    cases h
    exact Int32.toInt_ofInt_of_le hrange.1 (by omega)
  case isFalse => cases h

theorem LegacyId.natAbs_toInt_lt (l : LegacyId) : l.toInt.natAbs < UInt64.size := by
  have hge : -2147483648 ≤ l.toInt := Int32.le_toInt l
  have hlt : l.toInt < 2147483648 := Int32.toInt_lt l
  have : 2147483648 < UInt64.size := by decide
  omega

end RegistryTables
