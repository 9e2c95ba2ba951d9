import RegistryTables.Proofs.ItemInfixes
import Mathlib.Algebra.GroupWithZero.Nat

/-
  Which characters are lost when every `item.` is taken away.

  Removal is one pass from the left that does not search what it has put together. That it
  takes every `item.` all the same, and nothing else, is because no `item.` overlaps
  another: where one is cut out, no other is damaged. Places are counted in characters.

  What is proved:
    1. `MarkAt.apart` — two `item.` are at least five places apart.
    2. `dropInfixes_append`, `keptPlaces_append`, `markPlaces_append` — at a cut that no
       `item.` stands across, both parts go their own ways.
    3. `map_some_dropInfixes` — what is left are the characters outside every `item.`, in
       their order; `sum_dropInfixes` — each `item.` takes five characters with it.
    4. `exists_mark_between` — an `item.` in what is left has characters from both sides of
       one that was cut out, so the text did not have it.
    5. `removal_of_infixes` — all of this together.
-/
namespace RegistryTables.Identifier

variable {cs as bs : List Char} {c : Char} {n m i : Nat}

/-- An `item.` starts at the place. -/
def MarkAt (cs : List Char) (n : Nat) : Prop := "item.".toList <+: cs.drop n

/-- The character at the place is one of an `item.`. -/
def InMark (cs : List Char) (i : Nat) : Prop := ∃ n, MarkAt cs n ∧ n ≤ i ∧ i < n + 5

instance (cs : List Char) (n : Nat) : Decidable (MarkAt cs n) :=
  inferInstanceAs (Decidable ("item.".toList <+: cs.drop n))

instance (cs : List Char) (i : Nat) : Decidable (InMark cs i) :=
  decidable_of_iff (∃ n < i + 1, MarkAt cs n ∧ i < n + 5) <| exists_congr fun n => by
    rw [Nat.lt_succ_iff, and_left_comm]

/-- The places where an `item.` starts, ascending. -/
def markPlaces (cs : List Char) : List Nat := (List.range cs.length).filter (MarkAt cs ·)

/-- The places of the characters that are in no `item.`, ascending. -/
def keptPlaces (cs : List Char) : List Nat := (List.range cs.length).filter (¬ InMark cs ·)

/-! ## Single places -/

theorem markAt_iff : MarkAt cs n ↔ ∀ k < 5, cs[n + k]? = "item.".toList[k]? := by
  rw [MarkAt, List.prefix_iff_getElem?]
  constructor
  · intro h k hk
    rw [← List.getElem?_drop, h k hk]
    exact (List.getElem?_eq_getElem hk).symm
  · intro h k hk
    rw [List.getElem?_drop, h k hk]
    exact List.getElem?_eq_getElem hk

theorem MarkAt.lt_length (h : MarkAt cs n) : n < cs.length := lt_length_of_mark h

/-- No `item.` starts within another: none of its later characters is its first. -/
theorem MarkAt.apart (hn : MarkAt cs n) (hm : MarkAt cs m) (h : n < m) : n + 5 ≤ m := by
  apply Nat.le_of_not_lt
  intro hwithin
  have hno : ∀ k < 5, 0 < k → "item.".toList[k]? ≠ "item.".toList[0]? := by decide
  obtain ⟨k, rfl⟩ := Nat.exists_eq_add_of_le (Nat.le_of_lt h)
  have hinside := markAt_iff.1 hn k (by omega)
  have hfirst := markAt_iff.1 hm 0 (by decide)
  exact hno k (by omega) (by omega) (hinside.symm.trans hfirst)

theorem mem_markPlaces : n ∈ markPlaces cs ↔ MarkAt cs n := by
  rw [markPlaces, List.mem_filter, List.mem_range, decide_eq_true_eq]
  exact and_iff_right_of_imp MarkAt.lt_length

theorem mem_keptPlaces : i ∈ keptPlaces cs ↔ i < cs.length ∧ ¬ InMark cs i := by
  rw [keptPlaces, List.mem_filter, List.mem_range, decide_eq_true_eq]

/-! ## Cuts -/

/-- No `item.` stands across the cut between the two parts. -/
def CleanCut (as bs : List Char) : Prop :=
  ∀ n < as.length, MarkAt (as ++ bs) n → n + 5 ≤ as.length

theorem markAt_append_right : MarkAt (as ++ bs) (as.length + n) ↔ MarkAt bs n := by
  rw [MarkAt, List.drop_length_add_append, MarkAt]

namespace CleanCut

theorem markAt_left (h : CleanCut as bs) (hn : n < as.length) :
    MarkAt (as ++ bs) n ↔ MarkAt as n := by
  constructor
  · intro hmark
    have hroom := h n hn hmark
    rw [markAt_iff] at hmark ⊢
    intro k hk
    rw [← hmark k hk, List.getElem?_append_left (by omega)]
  · intro hmark
    rw [MarkAt, List.drop_append_of_le_length (Nat.le_of_lt hn)]
    exact hmark.trans (List.prefix_append _ _)

theorem inMark_left (h : CleanCut as bs) (hi : i < as.length) :
    InMark (as ++ bs) i ↔ InMark as i := by
  constructor
  · rintro ⟨n, hmark, hle, hlt⟩
    exact ⟨n, (h.markAt_left (Nat.lt_of_le_of_lt hle hi)).1 hmark, hle, hlt⟩
  · rintro ⟨n, hmark, hle, hlt⟩
    exact ⟨n, (h.markAt_left (Nat.lt_of_le_of_lt hle hi)).2 hmark, hle, hlt⟩

theorem inMark_right (h : CleanCut as bs) :
    InMark (as ++ bs) (as.length + i) ↔ InMark bs i := by
  constructor
  · rintro ⟨n, hmark, hle, hlt⟩
    have hbehind : as.length ≤ n := by
      apply Nat.le_of_not_lt
      intro hfront
      have := h n hfront hmark
      omega
    obtain ⟨k, rfl⟩ := Nat.exists_eq_add_of_le hbehind
    exact ⟨k, markAt_append_right.1 hmark, by omega, by omega⟩
  · rintro ⟨n, hmark, hle, hlt⟩
    exact ⟨as.length + n, markAt_append_right.2 hmark, by omega, by omega⟩

theorem of_append_left {front : List Char} (h : CleanCut (front ++ as) bs) : CleanCut as bs := by
  intro n hn hmark
  have hplace : MarkAt (front ++ as ++ bs) (front.length + n) := by
    rw [List.append_assoc]
    exact markAt_append_right.2 hmark
  have hroom := h _ (by rw [List.length_append]; omega) hplace
  rw [List.length_append] at hroom
  omega

/-- Behind an `item.` nothing stands across, since no other starts in it. -/
theorem mark (rest : List Char) : CleanCut "item.".toList rest := by
  intro n hn hmark
  rcases Nat.eq_zero_or_pos n with rfl | hpos
  · exact Nat.le_refl 5
  · have hfirst : MarkAt ("item.".toList ++ rest) 0 := List.prefix_append _ _
    have hlength : "item.".toList.length = 5 := by decide
    have := hfirst.apart hmark hpos
    omega

theorem single (h : ¬ MarkAt (c :: cs) 0) : CleanCut [c] cs := by
  intro n hn hmark
  obtain rfl : n = 0 := by simpa using hn
  exact absurd hmark h

end CleanCut

/-! ## The pass -/

theorem dropInfixes_cons (h : ¬ MarkAt (c :: cs) 0) :
    dropInfixes (c :: cs) = c :: dropInfixes cs := by
  apply dropInfixes.eq_2
  rintro rest rfl rfl
  exact h (List.prefix_append "item.".toList rest)

/-- A text is empty, or it starts with an `item.`, or with a character where none starts. -/
@[elab_as_elim]
theorem markInduction {P : List Char → Prop} (nil : P [])
    (mark : ∀ rest, P rest → P ("item.".toList ++ rest))
    (cons : ∀ c rest, ¬ MarkAt (c :: rest) 0 → P rest → P (c :: rest)) (cs : List Char) :
    P cs := by
  induction cs using dropInfixes.induct with
  | case1 rest ih => exact mark rest ih
  | case2 c rest hne ih =>
    refine cons c rest ?_ ih
    rintro ⟨behind, hbehind⟩
    obtain ⟨rfl, rfl⟩ := List.cons.inj hbehind
    exact hne behind rfl rfl
  | case3 => exact nil

theorem dropInfixes_append (h : CleanCut as bs) :
    dropInfixes (as ++ bs) = dropInfixes as ++ dropInfixes bs := by
  induction as using markInduction with
  | nil => rfl
  | mark rest ih => exact ih h.of_append_left
  | cons c rest hno ih =>
    have hno' : ¬ MarkAt (c :: (rest ++ bs)) 0 := by
      rwa [← h.markAt_left (Nat.zero_lt_succ _)] at hno
    have hrest : CleanCut rest bs := @CleanCut.of_append_left _ _ [c] h
    rw [List.cons_append, dropInfixes_cons hno', ih hrest, dropInfixes_cons hno, List.cons_append]

theorem dropInfixes_sublist (cs : List Char) : (dropInfixes cs).Sublist cs := by
  induction cs using markInduction with
  | nil => exact .refl _
  | mark rest ih => exact ih.trans (List.sublist_append_right _ _)
  | cons c rest hno ih =>
    rw [dropInfixes_cons hno]
    exact ih.cons_cons c

/-- The places of a front part, and those of the rest moved behind it. -/
theorem filter_range_add (p : Nat → Bool) (front back : Nat) :
    (List.range (front + back)).filter p =
      (List.range front).filter p ++
        ((List.range back).filter (fun i => p (front + i))).map (front + ·) := by
  rw [List.range_add, List.filter_append, List.filter_map]
  rfl

theorem markPlaces_append (h : CleanCut as bs) :
    markPlaces (as ++ bs) = markPlaces as ++ (markPlaces bs).map (as.length + ·) := by
  rw [markPlaces, List.length_append, filter_range_add]
  congr 1
  · apply List.filter_congr
    intro n hn
    simp only [h.markAt_left (List.mem_range.1 hn)]
  · simp only [markAt_append_right, markPlaces]

theorem keptPlaces_append (h : CleanCut as bs) :
    keptPlaces (as ++ bs) = keptPlaces as ++ (keptPlaces bs).map (as.length + ·) := by
  rw [keptPlaces, List.length_append, filter_range_add]
  congr 1
  · apply List.filter_congr
    intro i hi
    simp only [h.inMark_left (List.mem_range.1 hi)]
  · simp only [h.inMark_right, keptPlaces]

theorem not_markAt_single (c : Char) (n : Nat) : ¬ MarkAt [c] n := by
  intro h
  have hsecond : [c][n + 1]? = some 't' := markAt_iff.1 h 1 (by decide)
  simp at hsecond

theorem markPlaces_mark (rest : List Char) :
    markPlaces ("item.".toList ++ rest) = 0 :: (markPlaces rest).map (5 + ·) := by
  have hfront : markPlaces "item.".toList = [0] := by decide
  rw [markPlaces_append (.mark rest), hfront]
  rfl

theorem keptPlaces_mark (rest : List Char) :
    keptPlaces ("item.".toList ++ rest) = (keptPlaces rest).map (5 + ·) := by
  have hfront : keptPlaces "item.".toList = [] := by decide
  rw [keptPlaces_append (.mark rest), hfront]
  rfl

theorem markPlaces_cons (h : ¬ MarkAt (c :: cs) 0) :
    markPlaces (c :: cs) = (markPlaces cs).map (1 + ·) := by
  have hfront : markPlaces [c] = [] := by
    apply List.eq_nil_iff_forall_not_mem.2
    intro n hn
    exact not_markAt_single c n (mem_markPlaces.1 hn)
  have happend := markPlaces_append (.single h)
  rwa [hfront] at happend

theorem keptPlaces_cons (h : ¬ MarkAt (c :: cs) 0) :
    keptPlaces (c :: cs) = 0 :: (keptPlaces cs).map (1 + ·) := by
  have hfront : keptPlaces [c] = [0] := by
    apply List.filter_eq_self.2
    intro i _
    rw [decide_eq_true_eq]
    rintro ⟨n, hmark, -⟩
    exact not_markAt_single c n hmark
  have happend := keptPlaces_append (.single h)
  rwa [hfront] at happend

/-- What is left are the characters in no `item.`, in their order. -/
theorem map_some_dropInfixes (cs : List Char) :
    (dropInfixes cs).map some = (keptPlaces cs).map (cs[·]?) := by
  induction cs using markInduction with
  | nil => rfl
  | mark rest ih =>
    rw [keptPlaces_mark, List.map_map]
    exact ih.trans (List.map_congr_left fun i _ => by simp [Nat.add_comm 5])
  | cons c rest hno ih =>
    rw [keptPlaces_cons hno, dropInfixes_cons hno, List.map_cons, List.map_cons, List.map_map, ih]
    congr 1
    exact List.map_congr_left fun i _ => by simp [Nat.add_comm 1]

/-- However characters are weighed, as long as those of an `item.` weigh one each, every
`item.` takes away a weight of five. -/
theorem sum_dropInfixes (weight : Char → Nat) (hmark : ∀ c ∈ "item.".toList, weight c = 1)
    (cs : List Char) :
    ((dropInfixes cs).map weight).sum + 5 * (markPlaces cs).length = (cs.map weight).sum := by
  induction cs using markInduction with
  | nil => rfl
  | mark rest ih =>
    have hsum : ("item.".toList.map weight).sum = 5 := by
      rw [List.map_congr_left hmark]
      decide
    rw [markPlaces_mark, List.map_append, List.sum_append, hsum, ← ih, List.length_cons,
      List.length_map]
    have hpass : dropInfixes ("item.".toList ++ rest) = dropInfixes rest := rfl
    rw [hpass]
    omega
  | cons c rest hno ih =>
    rw [markPlaces_cons hno, dropInfixes_cons hno, List.map_cons, List.map_cons, List.sum_cons,
      List.sum_cons, List.length_map, ← ih, Nat.add_assoc]

theorem length_dropInfixes (cs : List Char) :
    (dropInfixes cs).length + 5 * (markPlaces cs).length = cs.length := by
  have hsum := sum_dropInfixes (fun _ => 1) (fun _ _ => rfl) cs
  rwa [List.map_const', List.map_const', List.sum_replicate_nat, List.sum_replicate_nat,
    Nat.mul_one, Nat.mul_one] at hsum

theorem utf8ByteSize_ofList (cs : List Char) :
    (String.ofList cs).utf8ByteSize = (cs.map Char.utf8Size).sum := by
  induction cs with
  | nil => rfl
  | cons c cs ih =>
    rw [String.ofList_cons, String.utf8ByteSize_append, String.utf8ByteSize_singleton, ih,
      List.map_cons, List.sum_cons]

theorem dropInfixes_eq_self_iff : dropInfixes cs = cs ↔ markPlaces cs = [] := by
  constructor
  · intro h
    have hlength := length_dropInfixes cs
    rw [h] at hlength
    exact List.eq_nil_of_length_eq_zero (by omega)
  · intro h
    apply dropInfixes_of_noInfix
    intro n hn
    have hmem : n ∈ markPlaces cs := mem_markPlaces.2 hn
    rw [h] at hmem
    cases hmem

theorem pairwise_markPlaces (cs : List Char) :
    (markPlaces cs).Pairwise (fun n m => n + 5 ≤ m) := by
  have hasc : (markPlaces cs).Pairwise (· < ·) := List.pairwise_lt_range.filter _
  refine hasc.imp_of_mem ?_
  intro n m hn hm hlt
  exact (mem_markPlaces.1 hn).apart (mem_markPlaces.1 hm) hlt

/-! ## What is left -/

theorem pairwise_keptPlaces (cs : List Char) : (keptPlaces cs).Pairwise (· < ·) :=
  List.pairwise_lt_range.filter _

theorem keptPlaces_lt {j k p q : Nat} (hp : (keptPlaces cs)[j]? = some p)
    (hq : (keptPlaces cs)[k]? = some q) (h : j < k) : p < q := by
  obtain ⟨hj, rfl⟩ := List.getElem?_eq_some_iff.1 hp
  obtain ⟨hk, rfl⟩ := List.getElem?_eq_some_iff.1 hq
  exact List.pairwise_iff_getElem.1 (pairwise_keptPlaces cs) j k hj hk h

theorem keptPlaces_le {j k p q : Nat} (hp : (keptPlaces cs)[j]? = some p)
    (hq : (keptPlaces cs)[k]? = some q) (h : j ≤ k) : p ≤ q := by
  rcases Nat.lt_or_eq_of_le h with hlt | rfl
  · exact Nat.le_of_lt (keptPlaces_lt hp hq hlt)
  · rw [hp] at hq
    cases hq
    exact Nat.le_refl _

/-- Neighbours among the kept places are neighbours in the text, or an `item.` was cut out
between them. -/
theorem keptPlaces_next {j p q : Nat} (hp : (keptPlaces cs)[j]? = some p)
    (hq : (keptPlaces cs)[j + 1]? = some q) :
    q = p + 1 ∨ ∃ n, MarkAt cs n ∧ p < n ∧ n + 5 ≤ q := by
  have hlt : p < q := keptPlaces_lt hp hq (Nat.lt_succ_self j)
  rcases Nat.lt_or_eq_of_le (Nat.succ_le_of_lt hlt) with hgap | heq
  · right
    have hnot : p + 1 ∉ keptPlaces cs := by
      intro hmem
      obtain ⟨k, hk⟩ := List.mem_iff_getElem?.1 hmem
      rcases Nat.lt_or_ge j k with hjk | hkj
      · have := keptPlaces_le hq hk hjk
        omega
      · have := keptPlaces_le hk hp hkj
        omega
    obtain ⟨-, hpout⟩ := mem_keptPlaces.1 (List.mem_of_getElem? hp)
    obtain ⟨hqlt, hqout⟩ := mem_keptPlaces.1 (List.mem_of_getElem? hq)
    have hin : InMark cs (p + 1) := by
      apply Decidable.of_not_not
      intro hout
      exact hnot (mem_keptPlaces.2 ⟨Nat.lt_trans hgap hqlt, hout⟩)
    obtain ⟨n, hmark, hle, hwithin⟩ := hin
    refine ⟨n, hmark, ?_, ?_⟩
    · apply Nat.lt_of_not_le
      intro hnp
      exact hpout ⟨n, hmark, hnp, by omega⟩
    · apply Nat.le_of_not_lt
      intro hqn
      exact hqout ⟨n, hmark, by omega, hqn⟩
  · exact .inl heq.symm

/-- The same for places further apart. -/
theorem keptPlaces_later {j p : Nat} (hp : (keptPlaces cs)[j]? = some p) : ∀ (k : Nat) {q : Nat},
    (keptPlaces cs)[j + k]? = some q → q = p + k ∨ ∃ n, MarkAt cs n ∧ p < n ∧ n + 5 ≤ q
  | 0, q, hq => by
    rw [Nat.add_zero, hp] at hq
    cases hq
    exact .inl rfl
  | k + 1, q, hq => by
    obtain ⟨hlength, -⟩ := List.getElem?_eq_some_iff.1 hq
    have hr : (keptPlaces cs)[j + k]? = some (keptPlaces cs)[j + k] :=
      List.getElem?_eq_getElem (by omega)
    have hrq := keptPlaces_lt hr hq (Nat.lt_succ_self _)
    have hpr := keptPlaces_le hp hr (Nat.le_add_right j k)
    rcases keptPlaces_later hp k hr with hfirst | ⟨n, hmark, hpn, hnr⟩
    · rcases keptPlaces_next hr hq with hnext | ⟨n, hmark, hrn, hnq⟩
      · exact .inl (by omega)
      · exact .inr ⟨n, hmark, by omega, hnq⟩
    · exact .inr ⟨n, hmark, hpn, by omega⟩

theorem exists_keptPlace {j : Nat} (h : (dropInfixes cs)[j]? = some c) :
    ∃ p, (keptPlaces cs)[j]? = some p ∧ cs[p]? = some c := by
  have hplace := congrArg (·[j]?) (map_some_dropInfixes cs)
  simp only [List.getElem?_map, h, Option.map_some] at hplace
  obtain ⟨p, hp, hc⟩ := Option.map_eq_some_iff.1 hplace.symm
  exact ⟨p, hp, hc⟩

/-- The characters of an `item.` in what is left did not stand together in the text, or it
would have been cut out itself. -/
theorem exists_mark_between (h : MarkAt (dropInfixes cs) m) :
    ∃ first last, (keptPlaces cs)[m]? = some first ∧ (keptPlaces cs)[m + 4]? = some last ∧
      ∃ n, MarkAt cs n ∧ first < n ∧ n + 5 ≤ last := by
  have hplaces : ∀ k < 5, ∃ p, (keptPlaces cs)[m + k]? = some p ∧
      cs[p]? = "item.".toList[k]? := by
    intro k hk
    have hchar := markAt_iff.1 h k hk
    have hletter : "item.".toList[k]? = some "item.".toList[k] := List.getElem?_eq_getElem hk
    rw [hletter] at hchar ⊢
    exact exists_keptPlace hchar
  obtain ⟨first, hfirst, -⟩ := hplaces 0 (by decide)
  obtain ⟨last, hlast, -⟩ := hplaces 4 (by decide)
  refine ⟨first, last, hfirst, hlast, ?_⟩
  by_contra hnone
  have htogether : MarkAt cs first := by
    rw [markAt_iff]
    intro k hk
    obtain ⟨p, hp, hchar⟩ := hplaces k hk
    rcases keptPlaces_later hfirst k hp with rfl | ⟨n, hmark, hbefore, hbehind⟩
    · exact hchar
    · have hple : p ≤ last := keptPlaces_le hp hlast (by omega)
      exact absurd ⟨n, hmark, hbefore, Nat.le_trans hbehind hple⟩ hnone
  obtain ⟨-, hout⟩ := mem_keptPlaces.1 (List.mem_of_getElem? hfirst)
  exact hout ⟨first, htogether, Nat.le_refl _, by omega⟩

/-- **Removal takes exactly the infixes.** They stand at least five places apart, and the text
loses their characters and no others: five each, whether characters or bytes are counted, so it
stays as it is exactly if it has none. Where removal forms a new `item.`, an old one was cut out
of its middle: its characters come from both sides of that one. -/
theorem removal_of_infixes (id : Identifier) :
    ((∀ n, n ∈ markPlaces id.toList ↔ id.InfixAt n) ∧
      (markPlaces id.toList).Pairwise (fun n m => n + 5 ≤ m)) ∧
    (id.withoutItemInfixes.toList.map some = (keptPlaces id.toList).map (id.toList[·]?) ∧
      (keptPlaces id.toList).Pairwise (· < ·) ∧
      ∀ i, i ∈ keptPlaces id.toList ↔
        i < id.length ∧ ¬ ∃ n, id.InfixAt n ∧ n ≤ i ∧ i < n + 5) ∧
    (id.withoutItemInfixes.length + 5 * (markPlaces id.toList).length = id.length ∧
      id.withoutItemInfixes.utf8ByteSize + 5 * (markPlaces id.toList).length =
        id.utf8ByteSize) ∧
    (id.withoutItemInfixes = id ↔ ∀ n, ¬ id.InfixAt n) ∧
    ∀ m, id.withoutItemInfixes.InfixAt m → ∃ first last,
      (keptPlaces id.toList)[m]? = some first ∧ (keptPlaces id.toList)[m + 4]? = some last ∧
      ¬ id.InfixAt first ∧ ∃ n, id.InfixAt n ∧ first < n ∧ n + 5 ≤ last := by
  have hleft : id.withoutItemInfixes.toList = dropInfixes id.toList := String.toList_ofList
  have hsame : id.withoutItemInfixes = id ↔ dropInfixes id.toList = id.toList := by
    rw [← String.toList_inj, hleft]
  refine ⟨⟨fun _ => mem_markPlaces, pairwise_markPlaces _⟩, ⟨?_, pairwise_keptPlaces _, ?_⟩,
    ⟨?_, ?_⟩, ?_, ?_⟩
  · -- what is left
    rw [hleft]
    exact map_some_dropInfixes id.toList
  · intro i
    rw [mem_keptPlaces, String.length_toList]
    rfl
  · -- how much is left
    rw [← String.length_toList, hleft, ← String.length_toList]
    exact length_dropInfixes id.toList
  · have hascii : ∀ c ∈ "item.".toList, c.utf8Size = 1 := by simp [Char.utf8Size]
    have hbytes := sum_dropInfixes Char.utf8Size hascii id.toList
    rwa [← utf8ByteSize_ofList, ← utf8ByteSize_ofList, String.ofList_toList] at hbytes
  · rw [hsame, dropInfixes_eq_self_iff, List.eq_nil_iff_forall_not_mem]
    exact forall_congr' fun _ => not_congr mem_markPlaces
  · -- what is new
    intro m hm
    rw [InfixAt, hleft] at hm
    obtain ⟨first, last, hfirst, hlast, hbetween⟩ := exists_mark_between hm
    obtain ⟨-, hout⟩ := mem_keptPlaces.1 (List.mem_of_getElem? hfirst)
    refine ⟨first, last, hfirst, hlast, ?_, hbetween⟩
    intro hold
    exact hout ⟨first, hold, Nat.le_refl _, by omega⟩

/-- Removal forms an infix whose letters come from the places 0, 6, 7, 8 and 9, on both sides of
the old one at 1. -/
theorem removal_of_infixes_formed :
    withoutItemInfixes "iitem.tem.x" = "item.x" ∧
    InfixAt (withoutItemInfixes "iitem.tem.x") 0 ∧
    keptPlaces "iitem.tem.x".toList = [0, 6, 7, 8, 9, 10] ∧
    ¬ InfixAt "iitem.tem.x" 0 ∧ ∃ n, InfixAt "iitem.tem.x" n ∧ 0 < n ∧ n + 5 ≤ 9 := by
  obtain ⟨-, -, -, -, hformed⟩ := removal_of_infixes "iitem.tem.x"
  have hnew : InfixAt (withoutItemInfixes "iitem.tem.x") 0 := by decide
  have hkept : keptPlaces "iitem.tem.x".toList = [0, 6, 7, 8, 9, 10] := by decide
  obtain ⟨first, last, hfirst, hlast, hold, hbetween⟩ := hformed 0 hnew
  rw [hkept] at hfirst hlast
  cases hfirst
  cases hlast
  exact ⟨by decide, hnew, hkept, hold, hbetween⟩

end RegistryTables.Identifier
