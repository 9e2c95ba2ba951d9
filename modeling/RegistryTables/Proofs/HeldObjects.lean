import RegistryTables.Proofs.RegistryHistory
import Mathlib.Data.Nat.Find

/-
  How the two indexes of a registry hang together.

  The indexes may disagree, and the index of numeric ids may hold objects that the index
  of identifiers discarded. Still each key of an object that is held is in use in the
  index of its kind, and an entry stands for one object only: whichever index an object
  is found in, it is the first object offered of its entry.

  What is proved:
    1. `Registry.Holds.find?_entry_of_held` — an object in either index is the first
       offer of its entry.
    2. `Ledger.mem_offered_of_takenUp` — an object comes into an index with the
       call that offers it for the first time, and with no later one.
    3. `held_objects_coherent` — the keys of what is held, and that held objects of
       equal keys are one object, from one call.
-/
namespace RegistryTables

namespace Registry

/-- The object is found in one of the two indexes. -/
def Held (r : Registry) (o : Object) : Prop :=
  (∃ id, r.get? id = some o) ∨ ∃ l, r.getByLegacyId? l = some o

variable {r : Registry} {offers : List Object} {o : Object}

theorem Holds.mem_of_held (h : r.Holds offers) (ho : r.Held o) : o ∈ offers := by
  rcases ho with ⟨id, ho⟩ | ⟨l, ho⟩
  · exact (h.byIdentifier.get?_some ho).1
  · exact (h.byLegacyId.get?_some ho).1

/-- An offer takes up both of its keys, unless they are in use already. -/
theorem Holds.keys_in_use (h : r.Holds offers) (ho : o ∈ offers) :
    (∃ p, r.get? o.identifier = some p) ∧ ∃ p, r.getByLegacyId? o.legacyId = some p :=
  ⟨Index.mem_keys_iff.1 (h.byIdentifier.mem_keys.2 (List.mem_map.2 ⟨o, ho, rfl⟩)),
    Index.mem_keys_iff.1 (h.byLegacyId.mem_keys.2 (List.mem_map.2 ⟨o, ho, rfl⟩))⟩

/-- The first offer of one of its keys is the first of both of them together. -/
theorem find?_entry_of_find?_key {κ : Type} [DecidableEq κ] (key : TypeEntry → κ)
    (ho : offers.find? (fun p => key p.toTypeEntry = key o.toTypeEntry) = some o) :
    offers.find? (fun p => p.toTypeEntry = o.toTypeEntry) = some o := by
  obtain ⟨-, before, later, happ, hbefore⟩ := List.find?_eq_some_iff_append.1 ho
  refine List.find?_eq_some_iff_append.2 ⟨by simp, before, later, happ, ?_⟩
  intro p hp
  have hkey : key p.toTypeEntry ≠ key o.toTypeEntry := by simpa using hbefore p hp
  have hne : p.toTypeEntry ≠ o.toTypeEntry := fun he => hkey (congrArg key he)
  simpa using hne

theorem Holds.find?_entry_of_held (h : r.Holds offers) (ho : r.Held o) :
    offers.find? (fun p => p.toTypeEntry = o.toTypeEntry) = some o := by
  rcases ho with ⟨id, ho⟩ | ⟨l, ho⟩
  · apply find?_entry_of_find?_key TypeEntry.identifier
    obtain rfl := (h.byIdentifier.get?_some ho).2
    exact (h.byIdentifier o.identifier).symm.trans ho
  · apply find?_entry_of_find?_key TypeEntry.legacyId
    obtain rfl := (h.byLegacyId.get?_some ho).2
    exact (h.byLegacyId o.legacyId).symm.trans ho

theorem Holds.eq_of_held (h : r.Holds offers) {p : Object} (ho : r.Held o) (hp : r.Held p)
    (he : o.toTypeEntry = p.toTypeEntry) : o = p := by
  have hfirst := h.find?_entry_of_held ho
  rw [he, h.find?_entry_of_held hp] at hfirst
  exact (Option.some.inj hfirst).symm

end Registry

namespace Ledger

/-! ## Offers over time -/

theorem offered_prefix_call (u : Ledger) (c : Call) : u.offered <+: (u.call c).value.1.offered := by
  cases c with
  | register e => exact List.prefix_append _ _
  | make e => exact List.prefix_refl _
  | registerObject place =>
    simp only [call]
    split
    · exact List.prefix_refl _
    · exact List.prefix_append _ _

theorem offered_prefix_append (calls later : List Call) :
    (after calls).offered <+: (after (calls ++ later)).offered := by
  induction later using List.reverseRecOn with
  | nil => rw [List.append_nil]
  | append_singleton later c ih =>
    rw [← List.append_assoc, after_append_singleton]
    exact ih.trans (offered_prefix_call _ c)

/-- What an identifier leads to, it leads to after any further calls. -/
theorem get?_after_append {calls : List Call} (later : List Call) {id : Identifier} {o : Object}
    (h : (after calls).registry.get? id = some o) :
    (after (calls ++ later)).registry.get? id = some o :=
  (sound_after calls).holds.byIdentifier.get?_later (sound_after _).holds.byIdentifier
    (offered_prefix_append calls later) h

theorem offered_prefix_take (calls : List Call) {n m : Nat} (h : n ≤ m) :
    (after (calls.take n)).offered <+: (after (calls.take m)).offered := by
  obtain ⟨k, rfl⟩ := Nat.exists_eq_add_of_le h
  rw [List.take_add]
  exact offered_prefix_append _ _

/-! ## The call that an object comes from -/

/-- The call at a place of the history brings the object into one of the indexes: a key
leads to it after the call that did not before. -/
def TakenUpAt (calls : List Call) (n : Nat) (o : Object) : Prop :=
  let before := (after (calls.take n)).registry
  let now := (after (calls.take (n + 1))).registry
  (∃ id, before.get? id ≠ some o ∧ now.get? id = some o) ∨
    ∃ l, before.getByLegacyId? l ≠ some o ∧ now.getByLegacyId? l = some o

variable {calls : List Call} {n : Nat} {o : Object}

/-- An object is taken up with the call that offers it for the first time. -/
theorem mem_offered_of_takenUp (h : TakenUpAt calls n o) :
    o ∉ (after (calls.take n)).offered ∧ o ∈ (after (calls.take (n + 1))).offered := by
  have hbefore := (sound_after (calls.take n)).holds
  have hnow := (sound_after (calls.take (n + 1))).holds
  have hpre := offered_prefix_take calls (Nat.le_succ n)
  -- Had it been offered before, it would have been the first of the key then as well.
  rcases h with ⟨id, hnew, hid⟩ | ⟨l, hnew, hl⟩
  · refine ⟨fun hold => hnew ?_, (hnow.byIdentifier.get?_some hid).1⟩
    exact hbefore.byIdentifier.get?_before hnow.byIdentifier hpre hold hid
  · refine ⟨fun hold => hnew ?_, (hnow.byLegacyId.get?_some hl).1⟩
    exact hbefore.byLegacyId.get?_before hnow.byLegacyId hpre hold hl

/-- An object that is held now was taken up when it was offered for the first time. -/
theorem takenUp_of_held (h : (after calls).registry.Held o)
    (hold : o ∉ (after (calls.take n)).offered) (hnew : o ∈ (after (calls.take (n + 1))).offered) :
    TakenUpAt calls n o := by
  have hbefore := (sound_after (calls.take n)).holds
  have hnow := (sound_after (calls.take (n + 1))).holds
  have hend := (sound_after calls).holds
  have hpre : (after (calls.take (n + 1))).offered <+: (after calls).offered := by
    have happ := offered_prefix_append (calls.take (n + 1)) (calls.drop (n + 1))
    rwa [List.take_append_drop] at happ
  rcases h with ⟨id, hid⟩ | ⟨l, hl⟩
  · refine Or.inl ⟨id, fun hget => hold (hbefore.byIdentifier.get?_some hget).1, ?_⟩
    exact hnow.byIdentifier.get?_before hend.byIdentifier hpre hnew hid
  · refine Or.inr ⟨l, fun hget => hold (hbefore.byLegacyId.get?_some hget).1, ?_⟩
    exact hnow.byLegacyId.get?_before hend.byLegacyId hpre hnew hl

/-- No object is taken up by two calls. -/
theorem takenUp_unique {m : Nat} (hn : TakenUpAt calls n o) (hm : TakenUpAt calls m o) : n = m := by
  obtain ⟨hnot, hnow⟩ := mem_offered_of_takenUp hn
  obtain ⟨hnot', hnow'⟩ := mem_offered_of_takenUp hm
  rcases Nat.lt_trichotomy n m with hlt | heq | hlt
  · exact absurd ((offered_prefix_take calls hlt).subset hnow) hnot'
  · exact heq
  · exact absurd ((offered_prefix_take calls hlt).subset hnow') hnot

/-- The call that takes up an object is one that offers it. -/
theorem offer?_of_takenUp (h : TakenUpAt calls n o) :
    ∃ c, calls[n]? = some c ∧ (after (calls.take n)).offer? c = some o := by
  obtain ⟨hnot, hnow⟩ := mem_offered_of_takenUp h
  cases hc : calls[n]? with
  | none =>
    -- Beyond the end of the history nothing is offered any more.
    rw [List.take_of_length_le (Nat.le_succ_of_le (List.getElem?_eq_none_iff.1 hc))] at hnow
    rw [List.take_of_length_le (List.getElem?_eq_none_iff.1 hc)] at hnot
    exact absurd hnow hnot
  | some c =>
    refine ⟨c, rfl, ?_⟩
    have htake : calls.take (n + 1) = calls.take n ++ [c] := by
      rw [List.take_add_one, hc, Option.toList_some]
    rw [htake, after_append_singleton] at hnow
    cases hoffer : (after (calls.take n)).offer? c with
    | none =>
      rw [(call_of_offer?_none hoffer).1] at hnow
      exact absurd hnow hnot
    | some p =>
      rw [((sound_after _).offers hoffer).offered] at hnow
      rcases List.mem_append.1 hnow with hold | hnew
      · exact absurd hold hnot
      · rw [List.mem_singleton.1 hnew]

theorem exists_takenUp (h : (after calls).registry.Held o) : ∃ n, TakenUpAt calls n o := by
  have hoffered : ∃ m, o ∈ (after (calls.take m)).offered := by
    refine ⟨calls.length, ?_⟩
    rw [List.take_length]
    exact (sound_after calls).holds.mem_of_held h
  cases hfirst : Nat.find hoffered with
  | zero =>
    have hnone := Nat.find_spec hoffered
    rw [hfirst] at hnone
    exact absurd hnone List.not_mem_nil
  | succ n =>
    have hnew := Nat.find_spec hoffered
    rw [hfirst] at hnew
    have hold := Nat.find_min hoffered (m := n) (by omega)
    exact ⟨n, takenUp_of_held h hold hnew⟩

end Ledger

open Ledger in
/-- After any calls on a new registry, each object stands under its own key in the index
that it is found in, and its other key is in use in the other index. Objects found in
either index that have both keys in common are one object, and there is one call of the
history, which offered it, that brought it into whatever index has it. -/
theorem held_objects_coherent (calls : List Call) :
    let r := (after calls).registry
    (∀ id o, r.get? id = some o →
      o.identifier = id ∧ ∃ p, r.getByLegacyId? o.legacyId = some p) ∧
    (∀ l o, r.getByLegacyId? l = some o →
      o.legacyId = l ∧ ∃ p, r.get? o.identifier = some p) ∧
    ∀ o p, r.Held o → r.Held p → o.identifier = p.identifier → o.legacyId = p.legacyId →
      o = p ∧ ∃ n c, calls[n]? = some c ∧ (after (calls.take n)).offer? c = some o ∧
        (∀ m, TakenUpAt calls m o ↔ m = n) ∧ ∀ m, TakenUpAt calls m p ↔ m = n := by
  intro r
  have hholds : r.Holds (after calls).offered := (sound_after calls).holds
  refine ⟨?_, ?_, ?_⟩
  · -- the index of identifiers
    intro id o ho
    have hmem := (hholds.byIdentifier.get?_some ho).1
    exact ⟨hholds.identifier_eq ho, (hholds.keys_in_use hmem).2⟩
  · -- the index of numeric ids
    intro l o ho
    obtain ⟨hmem, hl⟩ := hholds.byLegacyId.get?_some ho
    exact ⟨hl, (hholds.keys_in_use hmem).1⟩
  · -- objects of the same keys
    intro o p ho hp hid hl
    have hentry : o.toTypeEntry = p.toTypeEntry := by
      show (⟨o.identifier, o.legacyId⟩ : TypeEntry) = ⟨p.identifier, p.legacyId⟩
      rw [hid, hl]
    obtain rfl := hholds.eq_of_held ho hp hentry
    obtain ⟨n, hn⟩ := exists_takenUp ho
    obtain ⟨c, hc, hoffer⟩ := offer?_of_takenUp hn
    have hone : ∀ m, TakenUpAt calls m o ↔ m = n := by
      intro m
      constructor
      · intro hm
        exact takenUp_unique hm hn
      · rintro rfl
        exact hn
    exact ⟨rfl, n, c, hc, hoffer, hone, hone⟩

open Ledger in
/-- The indexes may disagree all the same: the second object of an identifier is found
under its numeric id only. -/
example :
    let r := (after [.register ⟨"a", 1⟩, .register ⟨"a", 2⟩]).registry
    r.get? "a" = some ⟨⟨"a", 1⟩, 0⟩ ∧ r.getByLegacyId? 2 = some ⟨⟨"a", 2⟩, 1⟩ := by decide

end RegistryTables
