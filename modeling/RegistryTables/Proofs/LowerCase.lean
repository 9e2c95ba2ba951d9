import Mathlib.Data.List.Basic
import Mathlib.Data.List.Pairwise
import RegistryTables.Text.Lowercase

/-
  The lower-case form of a text, in terms of its characters.

  A letter beyond ASCII has its lower-case letter by the range that holds it, so the table
  has to give one answer: no two ranges have a code point in common. None of them holds what
  another one's letters become either, and so a text in lower case stays as it is.

  What is proved:
    1. `eq_of_holds`, `not_holds_of_lower_holds` — both of them, for the ranges ascend in
       each parity (`ascending`).
    2. `lowers_iff` — the form of a character: ASCII letters, the letters of the table, `İ`,
       and all the others.
    3. `lowerSigma_eq_final_iff` — where a capital sigma becomes a final one.
    4. `lowercase_iff` — a text has the forms of its characters, one behind the other; so a
       text of ASCII is lowered letter by letter (`lowercase_of_ascii`), and a lower-case
       form is its own (`lowercase_lowercase`).
-/
namespace RegistryTables.Text

/-! ## The table -/

namespace CaseRange

/-- Whether all code points of the range are even, or all are odd. -/
def oneParity (r : CaseRange) : Bool := r.step == 2 || r.first == r.last

/-- Whether the range may have even code points (`p = 0`) or odd ones (`p = 1`). -/
def meets (r : CaseRange) (p : Nat) : Bool := !r.oneParity || r.first % 2 == p

/-- The lower-case letters of the range. -/
def lower (r : CaseRange) : CaseRange :=
  ⟨(r.first + r.offset).toNat, (r.last + r.offset).toNat, r.step, 0⟩

/-- Whether the range lies in a gap of ascending ranges: the first that does not end before it
starts behind it. -/
def between (l : CaseRange) : List CaseRange → Bool
  | [] => true
  | r :: rs => if Nat.blt r.last l.first then between l rs else Nat.blt l.last r.first

variable {a b l r : CaseRange} {rs : List CaseRange} {n m : Nat}

theorem holds_iff : r.holds n = true ↔ r.first ≤ n ∧ n ≤ r.last ∧ (n - r.first) % r.step = 0 := by
  simp [holds, and_assoc]

theorem mod_eq_of_oneParity (h : r.oneParity = true) (hn : r.holds n = true) :
    n % 2 = r.first % 2 := by
  obtain ⟨hfirst, hlast, hstep⟩ := holds_iff.1 hn
  simp only [oneParity, Bool.or_eq_true, beq_iff_eq] at h
  rcases h with htwo | hsingle
  · rw [htwo] at hstep
    omega
  · omega

theorem meets_of_holds (hn : r.holds n = true) : r.meets (n % 2) = true := by
  cases h : r.oneParity with
  | false => simp [meets, h]
  | true => simp [meets, mod_eq_of_oneParity h hn]

/-- The second range starts behind the first. -/
def Before (a b : CaseRange) : Prop := a.first ≤ a.last ∧ a.last < b.first

instance (a b : CaseRange) : Decidable (a.Before b) :=
  inferInstanceAs (Decidable (a.first ≤ a.last ∧ a.last < b.first))

theorem Before.trans {c : CaseRange} (hab : a.Before b) (hbc : b.Before c) : a.Before c :=
  ⟨hab.1, Nat.lt_of_lt_of_le hab.2 (Nat.le_trans hbc.1 (Nat.le_of_lt hbc.2))⟩

instance : Trans Before Before Before := ⟨Before.trans⟩

theorem Before.not_holds (h : a.Before b) (ha : a.holds n = true) : b.holds n = false := by
  refine Bool.eq_false_iff.2 fun hb => ?_
  have hlast := (holds_iff.1 ha).2.1
  have hfirst := (holds_iff.1 hb).1
  have hbefore := h.2
  omega

theorem not_holds_of_between (hsorted : rs.Pairwise Before) (h : l.between rs = true)
    (hn : l.holds n = true) : ∀ r ∈ rs, r.holds n = false := by
  obtain ⟨hfirst, hlast, -⟩ := holds_iff.1 hn
  induction rs with
  | nil =>
    intro r hr
    cases hr
  | cons q rs ih =>
    obtain ⟨hq, hrs⟩ := List.pairwise_cons.1 hsorted
    rw [between] at h
    intro r hr
    refine Bool.eq_false_iff.2 fun hrn => ?_
    obtain ⟨hrfirst, hrlast, -⟩ := holds_iff.1 hrn
    split at h
    case isTrue hends =>
      rw [Nat.blt_eq] at hends
      rcases List.mem_cons.1 hr with rfl | hr
      · omega
      · exact Bool.eq_false_iff.1 (ih hrs h r hr) hrn
    case isFalse =>
      rw [Nat.blt_eq] at h
      rcases List.mem_cons.1 hr with rfl | hr
      · omega
      · obtain ⟨hqlast, hbefore⟩ := hq r hr
        omega

theorem lower_holds (hoffset : 0 ≤ r.first + r.offset) (hn : r.holds n = true)
    (hm : (m : Int) = n + r.offset) : r.lower.holds m = true := by
  obtain ⟨hfirst, hlast, hstep⟩ := holds_iff.1 hn
  have hdistance : m - (r.first + r.offset).toNat = n - r.first := by omega
  refine holds_iff.2 ⟨?_, ?_, ?_⟩
  · show (r.first + r.offset).toNat ≤ m
    omega
  · show m ≤ (r.last + r.offset).toNat
    omega
  · show (m - (r.first + r.offset).toNat) % r.step = 0
    rw [hdistance, hstep]

end CaseRange

/-- The table apart from its order: its letters are beyond ASCII, what they become are characters
and no capital letters of ASCII, and `İ` is neither. -/
theorem formed : ∀ r ∈ lowerCaseRanges, 128 ≤ r.first ∧ 0 ≤ r.first + r.offset ∧
    (r.lower.last < 0xD800 ∨ 0xE000 ≤ r.lower.first ∧ r.lower.last < 0x110000) ∧
    (128 ≤ r.lower.first ∨ 97 ≤ r.lower.first ∧ r.lower.last ≤ 122) ∧
    r.holds 0x130 = false ∧ r.lower.holds 0x130 = false := by
  decide +kernel

/-- The ranges that may have code points of a parity. -/
def rangesOf (p : Nat) : List CaseRange := lowerCaseRanges.filter (·.meets p)

theorem mem_rangesOf {r : CaseRange} {n : Nat} (hr : r ∈ lowerCaseRanges) (hn : r.holds n = true) :
    r ∈ rangesOf (n % 2) :=
  List.mem_filter.2 ⟨hr, CaseRange.meets_of_holds hn⟩

theorem ascending {p : Nat} (hp : p < 2) : (rangesOf p).Pairwise CaseRange.Before := by
  have hchain : ∀ p < 2, (rangesOf p).IsChain CaseRange.Before := by
    decide +kernel
  exact (hchain p hp).pairwise

/-- No two ranges hold the same letter. -/
theorem eq_of_holds {r q : CaseRange} {n : Nat} (hr : r ∈ lowerCaseRanges)
    (hq : q ∈ lowerCaseRanges) (hrn : r.holds n = true) (hqn : q.holds n = true) : r = q := by
  let Alone (a b : CaseRange) : Prop := a.holds n = true → b.holds n = false
  have halone : (rangesOf (n % 2)).Pairwise Alone :=
    (ascending (Nat.mod_lt n (by decide))).imp CaseRange.Before.not_holds
  have hsymm : Std.Symm Alone :=
    ⟨fun a b hab hb => Bool.eq_false_iff.2 fun ha => Bool.eq_false_iff.1 (hab ha) hb⟩
  by_contra hne
  exact Bool.eq_false_iff.1 (halone.forall (mem_rangesOf hr hrn) (mem_rangesOf hq hqn) hne hrn) hqn

theorem find?_holds {r : CaseRange} {n : Nat} (hr : r ∈ lowerCaseRanges) (hn : r.holds n = true) :
    lowerCaseRanges.find? (·.holds n) = some r := by
  cases hfound : lowerCaseRanges.find? (·.holds n) with
  | none => exact absurd hn (List.find?_eq_none.1 hfound r hr)
  | some q =>
    have hq : q.holds n = true := List.find?_some (p := fun q : CaseRange => q.holds n) hfound
    rw [eq_of_holds hr (List.mem_of_find?_eq_some hfound) hn hq]

/-- No range holds what another one's letters become. -/
theorem not_holds_of_lower_holds {r q : CaseRange} {n : Nat} (hr : r ∈ lowerCaseRanges)
    (hn : r.lower.holds n = true) (hq : q ∈ lowerCaseRanges) : q.holds n = false := by
  have hall : ∀ p < 2, (lowerCaseRanges.all fun r =>
      !r.lower.meets p || r.lower.between (rangesOf p)) = true := by
    decide +kernel
  have hparity : n % 2 < 2 := Nat.mod_lt n (by decide)
  have hbetween : r.lower.between (rangesOf (n % 2)) = true := by
    have := List.all_eq_true.1 (hall (n % 2) hparity) r hr
    simpa [CaseRange.meets_of_holds hn] using this
  have hfree : ∀ q ∈ rangesOf (n % 2), q.holds n = false :=
    CaseRange.not_holds_of_between (ascending hparity) hbetween hn
  exact Bool.eq_false_iff.2 fun hqn =>
    Bool.eq_false_iff.1 (hfree q (mem_rangesOf hq hqn)) hqn

/-! ## Characters -/

/-- The lower-case form of a character, whatever stands around it. -/
inductive Lowers : Char → List Char → Prop where
  | ascii {c : Char} : c.toNat < 128 → Lowers c [c.toLower]
  | dotted : Lowers '\u0130' ['i', '\u0307']
  | letter {r : CaseRange} {c d : Char} : r ∈ lowerCaseRanges → r.holds c.toNat = true →
      (d.toNat : Int) = c.toNat + r.offset → Lowers c [d]
  | other {c : Char} : 128 ≤ c.toNat → c ≠ '\u0130' →
      (∀ r ∈ lowerCaseRanges, r.holds c.toNat = false) → Lowers c [c]

section

variable {c d : Char} {w : List Char} {r : CaseRange}

theorem lowerChar_of_ascii (hc : c.toNat < 128) : lowerChar c = [c.toLower] := if_pos hc

/-- The letter that a letter of the table becomes is a character. -/
theorem lowerChar_of_holds (hr : r ∈ lowerCaseRanges) (hc : r.holds c.toNat = true) :
    ∃ d, lowerChar c = [d] ∧ (d.toNat : Int) = c.toNat + r.offset := by
  obtain ⟨hascii, hoffset, hvalid, -, hdotted, -⟩ := formed r hr
  obtain ⟨hfirst, hlast, -⟩ := CaseRange.holds_iff.1 hc
  have hne : c ≠ '\u0130' := by
    rintro rfl
    exact Bool.eq_false_iff.1 hdotted hc
  have hchar : (c.toNat + r.offset).toNat.isValidChar := by
    simp only [CaseRange.lower] at hvalid
    unfold Nat.isValidChar
    omega
  have htoNat : (Char.ofNat (c.toNat + r.offset).toNat).toNat = (c.toNat + r.offset).toNat := by
    rw [Char.ofNat, dif_pos hchar]
    rfl
  refine ⟨Char.ofNat (c.toNat + r.offset).toNat, ?_, by omega⟩
  rw [lowerChar, if_neg (by omega), if_neg hne, find?_holds hr hc]

theorem lowerChar_eq_self (hascii : 128 ≤ c.toNat) (hdotted : c ≠ '\u0130')
    (hc : ∀ r ∈ lowerCaseRanges, r.holds c.toNat = false) : lowerChar c = [c] := by
  have hnone : lowerCaseRanges.find? (·.holds c.toNat) = none :=
    List.find?_eq_none.2 fun r hr => Bool.eq_false_iff.1 (hc r hr)
  rw [lowerChar, if_neg (by omega), if_neg hdotted, hnone]

/-- Every character has one form. -/
theorem lowers_iff : Lowers c w ↔ w = lowerChar c := by
  constructor
  · intro h
    cases h with
    | ascii hc => exact (lowerChar_of_ascii hc).symm
    | dotted => rfl
    | @letter r _ d hr hc hd =>
      obtain ⟨e, he, hnumber⟩ := lowerChar_of_holds hr hc
      have hsame : d = e := Char.toNat_inj.1 (by omega)
      rw [he, hsame]
    | other hascii hdotted hc => exact (lowerChar_eq_self hascii hdotted hc).symm
  · rintro rfl
    by_cases hascii : c.toNat < 128
    · rw [lowerChar_of_ascii hascii]
      exact .ascii hascii
    by_cases hdotted : c = '\u0130'
    · subst hdotted
      exact .dotted
    by_cases htable : ∃ r ∈ lowerCaseRanges, r.holds c.toNat = true
    · obtain ⟨r, hr, hc⟩ := htable
      obtain ⟨d, hd, hnumber⟩ := lowerChar_of_holds hr hc
      rw [hd]
      exact .letter hr hc hnumber
    · have hnone : ∀ r ∈ lowerCaseRanges, r.holds c.toNat = false := fun r hr =>
        Bool.eq_false_iff.2 fun hc => htable ⟨r, hr, hc⟩
      rw [lowerChar_eq_self (by omega) hdotted hnone]
      exact .other (by omega) hdotted hnone

/-! What is in lower case stays as it is. -/

theorem toLower_of_ascii (hc : c.toNat < 128) :
    c.toLower.toNat < 128 ∧ c.toLower.toLower = c.toLower := by
  have hall : ∀ n < 128, (Char.ofNat n).toLower.toNat < 128 ∧
      (Char.ofNat n).toLower.toLower = (Char.ofNat n).toLower := by
    decide
  have := hall c.toNat hc
  rwa [Char.ofNat_toNat] at this

theorem toLower_of_small (hge : 97 ≤ c.toNat) (hle : c.toNat ≤ 122) : c.toLower = c := by
  have hall : ∀ n ≤ 122, 97 ≤ n → (Char.ofNat n).toLower = Char.ofNat n := by
    decide
  have := hall c.toNat hle hge
  rwa [Char.ofNat_toNat] at this

theorem lowerChar_of_lower_holds (hr : r ∈ lowerCaseRanges) (hd : r.lower.holds d.toNat = true) :
    lowerChar d = [d] := by
  obtain ⟨-, -, -, hsmall, -, hdotted⟩ := formed r hr
  obtain ⟨hfirst, hlast, -⟩ := CaseRange.holds_iff.1 hd
  rcases hsmall with hbeyond | ⟨hge, hle⟩
  · refine lowerChar_eq_self (by omega) ?_ fun q hq => not_holds_of_lower_holds hr hd hq
    rintro rfl
    exact Bool.eq_false_iff.1 hdotted hd
  · rw [lowerChar_of_ascii (by omega), toLower_of_small (by omega) (by omega)]

/-- The characters of a form are their own forms. -/
theorem Lowers.lowerChar_eq (h : Lowers c w) : ∀ d ∈ w, lowerChar d = [d] := by
  cases h with
  | ascii hc =>
    obtain ⟨hlower, hsame⟩ := toLower_of_ascii hc
    intro d hd
    rw [List.mem_singleton.1 hd, lowerChar_of_ascii hlower, hsame]
  | dotted =>
    intro d hd
    rcases List.mem_pair.1 hd with rfl | rfl
    all_goals decide +kernel
  | letter hr hc hnumber =>
    intro d hd
    rw [List.mem_singleton.1 hd]
    exact lowerChar_of_lower_holds hr (CaseRange.lower_holds (formed _ hr).2.1 hc hnumber)
  | other hascii hdotted hc =>
    intro d hd
    rw [List.mem_singleton.1 hd, lowerChar_eq_self hascii hdotted hc]

end

/-! ## A capital sigma -/

/-- The word goes on: past the characters that count for nothing stands a letter. -/
def WordGoesOn (cs : List Char) : Prop :=
  ∃ skipped c rest, cs = skipped ++ c :: rest ∧ (∀ d ∈ skipped, isCaseIgnorable d = true) ∧
    isCaseIgnorable c = false ∧ isCased c = true

section

variable {before after cs : List Char}

theorem meetsLetter_iff : meetsLetter cs = true ↔ WordGoesOn cs := by
  unfold meetsLetter
  constructor
  · intro h
    split at h
    case h_1 c rest hrest =>
      have hfirst : isCaseIgnorable c = false := by
        have := List.head?_dropWhile_not isCaseIgnorable cs
        rw [hrest] at this
        simpa using this
      refine ⟨cs.takeWhile isCaseIgnorable, c, rest, ?_, ?_, hfirst, h⟩
      · rw [← hrest, List.takeWhile_append_dropWhile]
      · intro d hd
        exact List.all_eq_true.1 List.all_takeWhile d hd
    case h_2 => cases h
  · rintro ⟨skipped, c, rest, rfl, hskipped, hfirst, hcased⟩
    rw [List.dropWhile_append_of_pos hskipped, List.dropWhile_cons_of_neg (by simp [hfirst])]
    exact hcased

/-- A capital sigma becomes a final one exactly where a word ends with it: a letter stands before
it and none behind it. -/
theorem lowerSigma_eq_final_iff :
    lowerSigma before after = '\u03c2' ↔ WordGoesOn before ∧ ¬ WordGoesOn after := by
  rw [← meetsLetter_iff, ← meetsLetter_iff, lowerSigma]
  split
  case isTrue h => simpa using h
  case isFalse h => simpa using h

theorem lowerSigma_eq_inner_iff :
    lowerSigma before after = '\u03c3' ↔ ¬ (WordGoesOn before ∧ ¬ WordGoesOn after) := by
  rw [← lowerSigma_eq_final_iff, lowerSigma]
  split <;> decide

end

/-! ## Texts -/

/-- The form of a character, given what stands before it, backwards, and after it. -/
inductive FormAt (before after : List Char) : Char → List Char → Prop where
  | plain {c : Char} {w : List Char} : c ≠ '\u03a3' → Lowers c w → FormAt before after c w
  | final : WordGoesOn before → ¬ WordGoesOn after → FormAt before after '\u03a3' ['\u03c2']
  | inner : ¬ (WordGoesOn before ∧ ¬ WordGoesOn after) → FormAt before after '\u03a3' ['\u03c3']

/-- The forms of the characters of a text, one behind the other. -/
inductive Forms : List Char → List Char → List Char → Prop where
  | nil {before : List Char} : Forms before [] []
  | cons {before rest w ws : List Char} {c : Char} : FormAt before rest c w →
      Forms (c :: before) rest ws → Forms before (c :: rest) (w ++ ws)

section

variable {before after s w : List Char} {c : Char}

theorem formAt_iff : FormAt before after c w ↔
    w = if c = '\u03a3' then [lowerSigma before after] else lowerChar c := by
  constructor
  · intro h
    cases h with
    | plain hc hw => rw [if_neg hc, lowers_iff.1 hw]
    | final hbefore hafter => rw [if_pos rfl, lowerSigma_eq_final_iff.2 ⟨hbefore, hafter⟩]
    | inner hinner => rw [if_pos rfl, lowerSigma_eq_inner_iff.2 hinner]
  · rintro rfl
    by_cases hc : c = '\u03a3'
    · subst hc
      rw [if_pos rfl]
      by_cases hfinal : WordGoesOn before ∧ ¬ WordGoesOn after
      · rw [lowerSigma_eq_final_iff.2 hfinal]
        exact .final hfinal.1 hfinal.2
      · rw [lowerSigma_eq_inner_iff.2 hfinal]
        exact .inner hfinal
    · rw [if_neg hc]
      exact .plain hc (lowers_iff.2 rfl)

theorem forms_iff : Forms before s w ↔ w = lowerFrom before s := by
  induction s generalizing before w with
  | nil =>
    constructor
    · rintro ⟨⟩
      rfl
    · rintro rfl
      exact .nil
  | cons c s ih =>
    constructor
    · rintro (_ | ⟨hfirst, hrest⟩)
      rw [lowerFrom, formAt_iff.1 hfirst, ih.1 hrest]
    · rintro rfl
      exact .cons (formAt_iff.2 rfl) (ih.2 rfl)

/-- A character of a form is no capital sigma, and its own form. -/
theorem FormAt.lowerChar_eq (h : FormAt before after c w) :
    ∀ d ∈ w, d ≠ '\u03a3' ∧ lowerChar d = [d] := by
  have hsigma : lowerChar '\u03a3' ≠ ['\u03a3'] := by decide +kernel
  have hplain : ∀ {d : Char}, lowerChar d = [d] → d ≠ '\u03a3' ∧ lowerChar d = [d] := by
    intro d hd
    refine ⟨?_, hd⟩
    rintro rfl
    exact hsigma hd
  cases h with
  | plain _ hw => exact fun d hd => hplain (hw.lowerChar_eq d hd)
  | final _ _ =>
    intro d hd
    rw [List.mem_singleton.1 hd]
    exact hplain (by decide +kernel)
  | inner _ =>
    intro d hd
    rw [List.mem_singleton.1 hd]
    exact hplain (by decide +kernel)

theorem Forms.lowerChar_eq (h : Forms before s w) :
    ∀ d ∈ w, d ≠ '\u03a3' ∧ lowerChar d = [d] := by
  induction h with
  | nil =>
    intro d hd
    cases hd
  | cons hfirst _ ih =>
    intro d hd
    rcases List.mem_append.1 hd with hd | hd
    · exact hfirst.lowerChar_eq d hd
    · exact ih d hd

/-- Without a capital sigma, what stands around a character does not count. -/
theorem lowerFrom_of_noSigma (h : ∀ c ∈ s, c ≠ '\u03a3') :
    lowerFrom before s = s.flatMap lowerChar := by
  induction s generalizing before with
  | nil => rfl
  | cons c s ih =>
    rw [lowerFrom, if_neg (h c List.mem_cons_self), ih fun d hd => h d (List.mem_cons_of_mem c hd),
      List.flatMap_cons]

end

/-- The lower-case form of a text is made of the forms of its characters, each decided by the
character and, for a capital sigma, by the letters around it. -/
theorem lowercase_iff {s t : String} : t = lowercase s ↔ Forms [] s.toList t.toList := by
  rw [forms_iff, lowercase, ← String.toList_inj, String.toList_ofList]

theorem lowercase_of_ascii {s : String} (h : ∀ c ∈ s.toList, c.toNat < 128) :
    lowercase s = s.map Char.toLower := by
  have hsigma : ∀ c ∈ s.toList, c ≠ '\u03a3' := by
    rintro c hc rfl
    exact absurd (h _ hc) (by decide)
  have hforms : s.toList.flatMap lowerChar = s.toList.flatMap fun c => [c.toLower] :=
    List.flatMap_congr fun c hc => lowerChar_of_ascii (h c hc)
  rw [lowercase, lowerFrom_of_noSigma hsigma, hforms, ← List.map_eq_flatMap, ← String.toList_map,
    String.ofList_toList]

/-- A text in lower case stays as it is. -/
theorem lowercase_lowercase (s : String) : lowercase (lowercase s) = lowercase s := by
  have hforms : Forms [] s.toList (lowercase s).toList := lowercase_iff.1 rfl
  have hself : (lowercase s).toList.flatMap lowerChar = (lowercase s).toList.flatMap fun c => [c] :=
    List.flatMap_congr fun c hc => (hforms.lowerChar_eq c hc).2
  rw [lowercase, lowerFrom_of_noSigma fun c hc => (hforms.lowerChar_eq c hc).1, hself,
    List.flatMap_singleton', String.ofList_toList]

/-- Capital letters of one byte and of two, a dotted one, and a sigma inside and at the end of a
word. -/
example : lowercase "Golden_Apple" = "golden_apple" ∧ lowercase "ÅİΣΟΣ" = "åi\u0307σος" := by
  decide +kernel

end RegistryTables.Text
