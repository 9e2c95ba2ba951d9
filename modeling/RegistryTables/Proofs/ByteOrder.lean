import RegistryTables.Text.Order
import Mathlib.Tactic.SplitIfs

/-
  The order of strings by their UTF-8 bytes is the order by their code points.

  A character has a leading byte and up to three trailing bytes. The trailing bytes are the
  last digits of its number to the base 64; what is left of the number is in the leading
  byte, behind a mark that tells how many digits follow. So of two characters the greater
  has the greater leading byte, or the leading bytes are the same and so is the number of
  digits, and then the first digit that differs decides. Either way a byte decides that both
  characters have, and what follows in the strings does not count.

  What is proved:
    1. `utf8EncodeChar_eq` — the bytes of a character are its leading byte and its digits.
    2. `decided_trailing`, `decided_utf8EncodeChar` — the lesser of two characters has the
       lesser byte where their bytes first differ.
    3. `compareBytes_eq` — so the comparisons give one answer;
       `compareBytes_eq_lt_iff`, `compareBytes_eq_eq_iff`, `isLE_compareBytes_iff` — which
       is that of the order of strings.
-/
namespace RegistryTables.Text

/-! ## The bytes of a character -/

/-- How many trailing bytes the character of a number has. -/
def trailingCount (n : Nat) : Nat :=
  if n ≤ 0x7f then 0 else if n ≤ 0x7ff then 1 else if n ≤ 0xffff then 2 else 3

/-- What the leading byte of a character has besides the rest of its number. -/
def leadingMark : Nat → Nat
  | 0 => 0
  | 1 => 0xc0
  | 2 => 0xe0
  | _ => 0xf0

/-- What is left of a number without the last of its digits to the base 64, as many as are
asked for. -/
def front (n : Nat) : Nat → Nat
  | 0 => n
  | count + 1 => front n count / 64

def leading (n : Nat) : Nat := front n (trailingCount n) + leadingMark (trailingCount n)

/-- The bytes of these last digits. -/
def trailing (n : Nat) : Nat → List UInt8
  | 0 => []
  | count + 1 => UInt8.ofNat (front n count % 64 + 0x80) :: trailing n count

theorem front_mono {n m : Nat} (h : n ≤ m) : ∀ count, front n count ≤ front m count
  | 0 => h
  | count + 1 => Nat.div_le_div_right (front_mono h count)

theorem toNat_lt (c : Char) : c.toNat < 0x110000 := by
  have hvalid := c.valid
  simp only [UInt32.isValidChar, Nat.isValidChar] at hvalid
  show c.val.toNat < 0x110000
  omega

theorem utf8EncodeChar_eq (c : Char) :
    String.utf8EncodeChar c =
      UInt8.ofNat (leading c.toNat) :: trailing c.toNat (trailingCount c.toNat) := by
  have hval : c.val.toNat = c.toNat := rfl
  -- What is left of the number has room in the leading byte.
  have htwo : c.toNat ≤ 0x7ff → c.toNat / 64 % 32 = c.toNat / 64 := by omega
  have hthree : c.toNat ≤ 0xffff → c.toNat / 4096 % 16 = c.toNat / 4096 := by omega
  have hfour : c.toNat / 262144 % 8 = c.toNat / 262144 := by
    have hlt := toNat_lt c
    omega
  simp only [String.utf8EncodeChar, hval, leading, trailingCount]
  split_ifs with h1 h2 h3
  · simp [trailing, front, leadingMark]
  · simp [trailing, front, leadingMark, htwo h2]
  · simp [trailing, front, leadingMark, Nat.div_div_eq_div_mul, hthree h3]
  · simp [trailing, front, leadingMark, Nat.div_div_eq_div_mul, hfour]

theorem leading_lt {n : Nat} (h : n < 0x110000) : leading n < 256 := by
  simp only [leading, trailingCount]
  split_ifs <;> simp only [front, leadingMark] <;> omega

theorem trailingCount_mono {n m : Nat} (h : n ≤ m) : trailingCount n ≤ trailingCount m := by
  simp only [trailingCount]
  split_ifs <;> omega

/-- A character with more bytes has a greater mark, and that outweighs the rest of the number. -/
theorem leading_lt_of_trailingCount_lt {n m : Nat} (h : trailingCount n < trailingCount m) :
    leading n < leading m := by
  simp only [leading, trailingCount] at h ⊢
  split_ifs at h ⊢ <;> simp only [front, leadingMark] <;> omega

/-! ## The byte that decides -/

theorem compareLex_cons_self {α : Type} (cmp : α → α → Ordering) [Std.ReflCmp cmp] (a : α)
    (xs ys : List α) : List.compareLex cmp (a :: xs) (a :: ys) = List.compareLex cmp xs ys := by
  have hself : cmp a a = .eq := Std.ReflCmp.compare_self
  rw [List.compareLex_cons_cons, hself]
  rfl

/-- The bytes differ at some place that both lists have, and at the first such place the first
list has the lesser byte. -/
inductive Decided : List UInt8 → List UInt8 → Prop
  | here {a b : UInt8} (as bs : List UInt8) : a < b → Decided (a :: as) (b :: bs)
  | later (a : UInt8) {as bs : List UInt8} : Decided as bs → Decided (a :: as) (a :: bs)

/-- The place that decides comes before what follows either list. -/
theorem Decided.compareLex {as bs : List UInt8} (h : Decided as bs) (as' bs' : List UInt8) :
    List.compareLex compare (as ++ as') (bs ++ bs') = .lt := by
  induction h with
  | here as bs hlt =>
    rw [List.cons_append, List.cons_append, List.compareLex_cons_cons, Std.compare_eq_lt.2 hlt]
    rfl
  | later a _ ih =>
    rw [List.cons_append, List.cons_append, compareLex_cons_self, ih]

/-- Numbers that are the same without their last digits differ in these. -/
theorem decided_trailing {n m : Nat} (h : n < m) : ∀ count,
    front n count = front m count → Decided (trailing n count) (trailing m count)
  | 0, hfront => absurd hfront (Nat.ne_of_lt h)
  | count + 1, hfront => by
    rw [front, front] at hfront
    rcases Nat.lt_or_eq_of_le (front_mono (Nat.le_of_lt h) count) with hlt | heq
    · refine .here _ _ ((UInt8.ofNat_lt_iff_lt ?_ ?_).2 ?_)
      · show _ < 256
        omega
      · show _ < 256
        omega
      · omega
    · rw [trailing, trailing, heq]
      exact .later _ (decided_trailing h count heq)

theorem decided_utf8EncodeChar {c d : Char} (h : c.toNat < d.toNat) :
    Decided (String.utf8EncodeChar c) (String.utf8EncodeChar d) := by
  rw [utf8EncodeChar_eq, utf8EncodeChar_eq]
  have hdecides : leading c.toNat < leading d.toNat →
      UInt8.ofNat (leading c.toNat) < UInt8.ofNat (leading d.toNat) :=
    (UInt8.ofNat_lt_iff_lt (leading_lt (toNat_lt c)) (leading_lt (toNat_lt d))).2
  rcases Nat.lt_or_eq_of_le (trailingCount_mono (Nat.le_of_lt h)) with hcount | hcount
  · exact .here _ _ (hdecides (leading_lt_of_trailingCount_lt hcount))
  · -- As many digits follow, so the leading bytes compare like what is left of the numbers.
    have hleading : leading c.toNat =
        front c.toNat (trailingCount d.toNat) + leadingMark (trailingCount d.toNat) := by
      rw [leading, hcount]
    rcases Nat.lt_or_eq_of_le (front_mono (Nat.le_of_lt h) (trailingCount d.toNat)) with hlt | heq
    · apply Decided.here _ _ (hdecides ?_)
      rw [hleading, leading]
      omega
    · have hsame : leading c.toNat = leading d.toNat := by rw [hleading, heq, leading]
      rw [hsame, hcount]
      exact .later _ (decided_trailing h _ heq)

/-! ## Strings -/

theorem compareLex_append_left {α : Type} (cmp : α → α → Ordering) [Std.ReflCmp cmp]
    (front xs ys : List α) :
    List.compareLex cmp (front ++ xs) (front ++ ys) = List.compareLex cmp xs ys := by
  induction front with
  | nil => rfl
  | cons a front ih =>
    rw [List.cons_append, List.cons_append, compareLex_cons_self, ih]

/-- Equal characters have equal bytes, and of different ones a byte decides. -/
theorem compareLex_utf8 : ∀ cs ds : List Char,
    List.compareLex compare (cs.flatMap String.utf8EncodeChar)
        (ds.flatMap String.utf8EncodeChar) =
      List.compareLex (fun c d => compare c.toNat d.toNat) cs ds
  | [], [] => rfl
  | [], d :: ds => by
    rw [List.flatMap_cons, utf8EncodeChar_eq]
    rfl
  | c :: cs, [] => by
    rw [List.flatMap_cons, utf8EncodeChar_eq]
    rfl
  | c :: cs, d :: ds => by
    rw [List.flatMap_cons, List.flatMap_cons]
    rcases Nat.lt_trichotomy c.toNat d.toNat with hlt | heq | hgt
    · rw [(decided_utf8EncodeChar hlt).compareLex, List.compareLex_cons_cons,
        Nat.compare_eq_lt.2 hlt]
      rfl
    · rw [List.compareLex_cons_cons, Nat.compare_eq_eq.2 heq, Char.toNat_inj.1 heq,
        compareLex_append_left]
      exact compareLex_utf8 cs ds
    · rw [Std.OrientedCmp.gt_iff_lt.2 ((decided_utf8EncodeChar hgt).compareLex _ _),
        List.compareLex_cons_cons, Nat.compare_eq_gt.2 hgt]
      rfl

theorem compareBytes_eq (s t : String) : compareBytes s t = compareCodePoints s t :=
  compareLex_utf8 s.toList t.toList

/-- The bytes that are compared are those of which the string is made. -/
theorem utf8_eq (s : String) : utf8 s = s.toUTF8.data.toList := by
  have hbytes : s.toUTF8 = (utf8 s).toByteArray := String.utf8Encode_toList.symm
  rw [hbytes, List.data_toByteArray]

theorem compareLex_eq_lt_iff : ∀ cs ds : List Char,
    List.compareLex (fun c d => compare c.toNat d.toNat) cs ds = .lt ↔ cs < ds
  | [], [] => by simp [List.compareLex_nil_nil]
  | [], d :: ds => by simp [List.compareLex_nil_cons]
  | c :: cs, [] => by simp [List.compareLex_cons_nil]
  | c :: cs, d :: ds => by
    have hchar : c < d ↔ c.toNat < d.toNat := UInt32.lt_iff_toNat_lt
    rw [List.compareLex_cons_cons, List.cons_lt_cons_iff, hchar, ← compareLex_eq_lt_iff cs ds,
      Ordering.then_eq_lt, Nat.compare_eq_lt, Nat.compare_eq_eq, Char.toNat_inj]

theorem compareBytes_eq_lt_iff {s t : String} : compareBytes s t = .lt ↔ s < t := by
  rw [compareBytes_eq, compareCodePoints, compareLex_eq_lt_iff]
  rfl

theorem compareBytes_eq_gt_iff {s t : String} : compareBytes s t = .gt ↔ t < s := by
  rw [← compareBytes_eq_lt_iff, compareBytes, compareBytes]
  exact Std.OrientedCmp.gt_iff_lt

theorem compareBytes_eq_eq_iff {s t : String} : compareBytes s t = .eq ↔ s = t := by
  constructor
  · intro heq
    have hnotLess : ¬s < t := by
      rw [← compareBytes_eq_lt_iff, heq]
      exact Ordering.noConfusion
    have hnotGreater : ¬t < s := by
      rw [← compareBytes_eq_gt_iff, heq]
      exact Ordering.noConfusion
    exact Std.le_antisymm (Std.not_lt.1 hnotGreater) (Std.not_lt.1 hnotLess)
  · rintro rfl
    rw [compareBytes]
    exact Std.ReflCmp.compare_self

theorem isLE_compareBytes_iff {s t : String} : (compareBytes s t).isLE = true ↔ s ≤ t := by
  rw [Ordering.isLE_iff_ne_gt, compareBytes_eq_gt_iff, Std.not_lt]

end RegistryTables.Text
