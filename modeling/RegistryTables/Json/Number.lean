import RegistryTables.Json.Fault

/-
  JSON numbers. A number with a fraction or an exponent is a decimal, and so is `-0`;
  any other is an integer, however long. A decimal has no exact value here: all that
  counts is whether it is too large for a double, and then an integer is refused as well.
-/
namespace RegistryTables.Json

/-- A number as it is written: its sign, its digits, and its exponent's sign and digits. -/
structure Numeral where
  negative : Bool
  whole : List Char
  fraction : List Char
  exponentNegative : Bool
  exponent : List Char
  deriving DecidableEq, Repr

/-- One digit or more, and the rest of the text. -/
def digits (s : List Char) : Except Break (List Char × List Char) :=
  if (s.takeWhile Char.isDigit).isEmpty then
    .error (if s.isEmpty then .numberAtEnd else .atCharacter)
  else .ok (s.takeWhile Char.isDigit, s.dropWhile Char.isDigit)

/-- The digits before the point: no digit follows a zero in front. -/
def wholeDigits (s : List Char) : Except Break (List Char × List Char) := do
  let (ds, rest) ← digits s
  match ds with
  | '0' :: _ :: _ => .error .atCharacter
  | _ => .ok (ds, rest)

/-- The digits after the point, if there is one. -/
def fractionDigits : List Char → Except Break (List Char × List Char)
  | '.' :: s => digits s
  | s => .ok ([], s)

/-- The text behind a sign, and whether the sign is a minus. -/
def afterSign : List Char → Bool × List Char
  | '-' :: s => (true, s)
  | '+' :: s => (false, s)
  | s => (false, s)

/-- The exponent's sign and digits, if there is an exponent. -/
def exponentDigits : List Char → Except Break ((Bool × List Char) × List Char)
  | 'e' :: s | 'E' :: s => do
    let (ds, rest) ← digits (afterSign s).2
    .ok (((afterSign s).1, ds), rest)
  | s => .ok ((false, []), s)

/-- The text behind a minus, and whether there is one. -/
def afterMinus : List Char → Bool × List Char
  | '-' :: s => (true, s)
  | s => (false, s)

def scanNumber (s : List Char) : Except Break (Numeral × List Char) := do
  let (whole, s₁) ← wholeDigits (afterMinus s).2
  let (fraction, s₂) ← fractionDigits s₁
  let ((negative, exponent), s₃) ← exponentDigits s₂
  .ok (⟨(afterMinus s).1, whole, fraction, negative, exponent⟩, s₃)

def ofDigits (ds : List Char) : Nat := ds.foldl (fun n d => 10 * n + (d.toNat - '0'.toNat)) 0

/-- The number of the leading digits that 64 bits hold, from `n` on, and how many digits
are left over. -/
def leading (n : Nat) : List Char → Nat × Nat
  | [] => (n, 0)
  | d :: ds =>
    let m := 10 * n + (d.toNat - '0'.toNat)
    if m < UInt64.size then leading m ds else (n, ds.length + 1)

/-- The number with the 53 leading bits that a double has, rounded to the nearest such
number and half-way to the even one. -/
def doubleNear (n : Nat) : Nat :=
  let unit := Nat.pow 2 (n.log2 - 52)
  let up := unit < 2 * (n % unit) || (unit == 2 * (n % unit) && n / unit % 2 == 1)
  (if up then n / unit + 1 else n / unit) * unit

/-- The least number that is too large for a double to be near it. -/
def doubleLimit : Nat := Nat.pow 2 1024 - Nat.pow 2 970

/-- Whether a number times a power of ten is too large for a double, both rounded before
they are multiplied. Powers of ten beyond the doubles are too large for any number but zero. -/
def beyondDouble (significand : Nat) (exponent : Int) : Bool :=
  significand != 0 && (308 < exponent ||
    (0 ≤ exponent &&
      doubleLimit ≤ doubleNear significand * doubleNear (Nat.pow 10 exponent.toNat)))

namespace Numeral

/-- Whether the number is an integer by the way it is written. -/
def isInteger (n : Numeral) : Bool :=
  n.fraction.isEmpty && n.exponent.isEmpty && !(n.negative && n.whole == ['0'])

def toInt (n : Numeral) : Int :=
  if n.negative then -(ofDigits n.whole : Int) else (ofDigits n.whole : Int)

def overflows (n : Numeral) : Bool :=
  let (significand, dropped) := leading 0 (n.whole ++ n.fraction)
  let power : Int :=
    if n.exponentNegative then -(ofDigits n.exponent : Int) else ofDigits n.exponent
  beyondDouble significand (power - n.fraction.length + dropped)

end Numeral

/-! ## A scanned number is not empty -/

/-- Two steps that succeed together succeed one after the other. -/
theorem exists_of_bind_eq_ok {ε α β : Type} {x : Except ε α} {f : α → Except ε β} {b : β}
    (h : (x >>= f) = .ok b) : ∃ a, x = .ok a ∧ f a = .ok b := by
  cases x with
  | error fault => cases h
  | ok a => exact ⟨a, rfl, h⟩

theorem length_dropWhile_le (p : Char → Bool) (s : List Char) :
    (s.dropWhile p).length ≤ s.length :=
  (List.dropWhile_sublist p).length_le

theorem digits_length {s ds rest : List Char} (h : digits s = .ok (ds, rest)) :
    rest.length < s.length := by
  unfold digits at h
  split at h
  · simp at h
  · rename_i he
    simp only [Except.ok.injEq, Prod.mk.injEq] at h
    obtain ⟨_, rfl⟩ := h
    cases s with
    | nil => simp at he
    | cons c s =>
      have hle := length_dropWhile_le Char.isDigit s
      by_cases hc : c.isDigit
      · simp only [List.dropWhile_cons, hc, if_true, List.length_cons]
        omega
      · simp [hc] at he

theorem wholeDigits_length {s ds rest : List Char} (h : wholeDigits s = .ok (ds, rest)) :
    rest.length < s.length := by
  obtain ⟨⟨ds, r⟩, hd, h⟩ := exists_of_bind_eq_ok h
  simp only at h
  split at h
  · cases h
  · cases h
    exact digits_length hd

theorem fractionDigits_length {s ds rest : List Char} (h : fractionDigits s = .ok (ds, rest)) :
    rest.length ≤ s.length := by
  unfold fractionDigits at h
  split at h
  · have := digits_length h
    simp only [List.length_cons]
    omega
  · simp only [Except.ok.injEq, Prod.mk.injEq] at h
    obtain ⟨_, rfl⟩ := h
    exact Nat.le_refl _

theorem afterSign_length (s : List Char) : (afterSign s).2.length ≤ s.length := by
  unfold afterSign
  split <;> simp

theorem afterMinus_length (s : List Char) : (afterMinus s).2.length ≤ s.length := by
  unfold afterMinus
  split <;> simp

theorem exponentDigits_length {s rest : List Char} {e : Bool × List Char}
    (h : exponentDigits s = .ok (e, rest)) : rest.length ≤ s.length := by
  unfold exponentDigits at h
  split at h
  case h_3 =>
    cases h
    exact Nat.le_refl _
  all_goals
    rename_i t
    obtain ⟨⟨ds, r⟩, hd, h⟩ := exists_of_bind_eq_ok h
    cases h
    have h1 := digits_length hd
    have h2 := afterSign_length t
    simp only [List.length_cons]
    omega

theorem scanNumber_length {s rest : List Char} {n : Numeral}
    (h : scanNumber s = .ok (n, rest)) : rest.length < s.length := by
  obtain ⟨⟨whole, s₁⟩, hw, h⟩ := exists_of_bind_eq_ok h
  obtain ⟨⟨fraction, s₂⟩, hf, h⟩ := exists_of_bind_eq_ok h
  obtain ⟨⟨⟨negative, exponent⟩, s₃⟩, he, h⟩ := exists_of_bind_eq_ok h
  cases h
  have h1 := wholeDigits_length hw
  have h2 := fractionDigits_length hf
  have h3 := exponentDigits_length he
  have h4 := afterMinus_length s
  omega

end RegistryTables.Json
