import RegistryTables.Proofs.HeldObjects
import RegistryTables.Proofs.RegisteredEntries
import RegistryTables.Proofs.StableOrder

/-
  Which registrations count.

  What a registry answers is settled by the first registration of each identifier and the
  first of each numeric id. Histories that agree on these fill registries alike. So
  registrations with no key in common may change places, and a registration that is made
  again finds both of its keys in use.

  The objects of two registries are never the same ones. Registries are compared by what
  their objects bear, and by where their two indexes lead to one object.

  What is proved:
    1. `alike_iff_sameFirsts` — registries are alike exactly if the first registrations
       of each key are the same.
    2. `registerAll_of_inUse` — registrations whose keys are in use leave both indexes
       as they are.
    3. `get?_registerAll_of_some` — what an identifier leads to, it leads to after any
       further registrations.
    4. `first_registrations_settle` — the three together, for whole histories.
-/
namespace RegistryTables

/-! ## Indexes with the same lookups -/

namespace Index

variable {κ α β : Type} [DecidableEq κ] {f : α → β} {m n : Index κ α}

theorem mem_map_entries_iff {e : κ × β} :
    e ∈ m.entries.map (Prod.map id f) ↔ (m.get? e.1).map f = some e.2 := by
  simp only [List.mem_map, Option.map_eq_some_iff, get?_eq_some_iff]
  constructor
  · rintro ⟨x, hx, rfl⟩
    exact ⟨x.2, hx, rfl⟩
  · rintro ⟨a, ha, hf⟩
    exact ⟨(e.1, a), ha, Prod.ext rfl hf⟩

omit [DecidableEq κ] in
theorem nodup_map_entries (f : α → β) (m : Index κ α) :
    ((m.entries.map (Prod.map id f)).map Prod.fst).Nodup := by
  rw [List.map_map]
  exact m.keys_nodup

/-- Indexes that answer alike have the same entries, in some order. -/
theorem entries_perm_of_get? (h : ∀ k, (m.get? k).map f = (n.get? k).map f) :
    (m.entries.map (Prod.map id f)).Perm (n.entries.map (Prod.map id f)) := by
  refine (List.perm_ext_iff_of_nodup (nodup_map_entries f m).of_map
    (nodup_map_entries f n).of_map).2 ?_
  intro e
  rw [mem_map_entries_iff, mem_map_entries_iff, h]

theorem size_eq_of_get? (h : ∀ k, (m.get? k).map f = (n.get? k).map f) : m.size = n.size := by
  have hlength := (entries_perm_of_get? h).length_eq
  rwa [List.length_map, List.length_map] at hlength

theorem sorted_values_eq_of_get? [LE κ] [DecidableLE κ] [Std.IsLinearOrder κ]
    (h : ∀ k, (m.get? k).map f = (n.get? k).map f) :
    (m.sorted.map Prod.snd).map f = (n.sorted.map Prod.snd).map f := by
  have hsorted : ∀ i : Index κ α, (i.sorted.map Prod.snd).map f =
      (sortOn Prod.fst (i.entries.map (Prod.map id f))).map Prod.snd := by
    intro i
    rw [← map_sortOn (Prod.map id f) Prod.fst i.entries, List.map_map, List.map_map]
    rfl
  rw [hsorted m, hsorted n, sortOn_eq_of_perm (entries_perm_of_get? h) (nodup_map_entries f m)]

end Index

/-! ## First registrations -/

/-- For every identifier and for every numeric id, the first entry that bears it is the same. -/
structure SameFirsts (es fs : List TypeEntry) : Prop where
  byIdentifier : ∀ id, es.find? (fun e => e.identifier = id) = fs.find? (fun e => e.identifier = id)
  byLegacyId : ∀ l, es.find? (fun e => e.legacyId = l) = fs.find? (fun e => e.legacyId = l)

/-- Neighbours of which at most one is looked for may change places. -/
theorem find?_swap {α : Type} {p : α → Bool} {a b : α} (h : p a = true → p b = false)
    (before later : List α) :
    (before ++ a :: b :: later).find? p = (before ++ b :: a :: later).find? p := by
  rw [List.find?_append, List.find?_append]
  congr 1
  cases ha : p a with
  | true =>
    rw [List.find?_cons_of_pos ha, List.find?_cons_of_neg (by simp [h ha]),
      List.find?_cons_of_pos ha]
  | false =>
    rw [List.find?_cons_of_neg (by simp [ha])]
    cases hb : p b with
    | true => rw [List.find?_cons_of_pos hb, List.find?_cons_of_pos hb]
    | false =>
      rw [List.find?_cons_of_neg (by simp [hb]), List.find?_cons_of_neg (by simp [hb]),
        List.find?_cons_of_neg (by simp [ha])]

theorem SameFirsts.swap {a b : TypeEntry} (hid : a.identifier ≠ b.identifier)
    (hl : a.legacyId ≠ b.legacyId) (before later : List TypeEntry) :
    SameFirsts (before ++ a :: b :: later) (before ++ b :: a :: later) := by
  refine ⟨fun id => find?_swap ?_ before later, fun l => find?_swap ?_ before later⟩
  · intro ha
    simp only [decide_eq_true_eq] at ha
    simpa [← ha] using hid.symm
  · intro ha
    simp only [decide_eq_true_eq] at ha
    simpa [← ha] using hl.symm

namespace Registry

/-- The registry after a history of registrations on a new one. -/
def ofHistory (es : List TypeEntry) : Registry := (empty.registerAll es).value

/-- The registries answer alike: their objects bear the same identifiers and numeric ids
wherever they are looked for, and an identifier and a numeric id lead to one object in
both of them or in neither. -/
structure Alike (r q : Registry) : Prop where
  get? : ∀ id, (r.get? id).map Object.toTypeEntry = (q.get? id).map Object.toTypeEntry
  getByLegacyId? : ∀ l,
    (r.getByLegacyId? l).map Object.toTypeEntry = (q.getByLegacyId? l).map Object.toTypeEntry
  size : r.size = q.size
  legacySize : r.legacySize = q.legacySize
  sortedObjects :
    r.sortedObjects.map Object.toTypeEntry = q.sortedObjects.map Object.toTypeEntry
  sameObject : ∀ id l, r.get? id = r.getByLegacyId? l ↔ q.get? id = q.getByLegacyId? l

theorem HoldsEntries.registerAll : ∀ (fs : List TypeEntry) {r : Registry} {es : List TypeEntry},
    r.HoldsEntries es → (r.registerAll fs).value.HoldsEntries (es ++ fs)
  | [], _, _, h => by
    rw [List.append_nil]
    exact h
  | f :: rest, _, es, h => by
    have hrest := HoldsEntries.registerAll rest (h.register f)
    rw [List.append_assoc] at hrest
    exact hrest

theorem holdsEntries_ofHistory (es : List TypeEntry) : (ofHistory es).HoldsEntries es :=
  HoldsEntries.registerAll es holdsEntries_empty

variable {r q : Registry} {es fs : List TypeEntry}

/-- Two lookups find one object exactly if they find objects of one entry. -/
theorem HoldsEntries.get?_eq_getByLegacyId?_iff (h : r.HoldsEntries es) (id : Identifier)
    (l : LegacyId) : r.get? id = r.getByLegacyId? l ↔
      (r.get? id).map Object.toTypeEntry = (r.getByLegacyId? l).map Object.toTypeEntry := by
  obtain ⟨offers, hr, -⟩ := h
  refine ⟨congrArg _, ?_⟩
  cases hid : r.get? id with
  | none => cases hl : r.getByLegacyId? l <;> simp
  | some o =>
    cases hl : r.getByLegacyId? l with
    | none => simp
    | some p =>
      intro he
      exact congrArg some (hr.eq_of_held (Or.inl ⟨id, hid⟩) (Or.inr ⟨l, hl⟩) (Option.some.inj he))

theorem alike_iff_sameFirsts (hr : r.HoldsEntries es) (hq : q.HoldsEntries fs) :
    r.Alike q ↔ SameFirsts es fs := by
  constructor
  · intro h
    refine ⟨fun id => ?_, fun l => ?_⟩
    · rw [← hr.get?, ← hq.get?, h.get?]
    · rw [← hr.getByLegacyId?, ← hq.getByLegacyId?, h.getByLegacyId?]
  · intro h
    have hid : ∀ id, (r.get? id).map Object.toTypeEntry = (q.get? id).map Object.toTypeEntry := by
      intro id
      rw [hr.get?, hq.get?, h.byIdentifier]
    have hl : ∀ l, (r.getByLegacyId? l).map Object.toTypeEntry =
        (q.getByLegacyId? l).map Object.toTypeEntry := by
      intro l
      rw [hr.getByLegacyId?, hq.getByLegacyId?, h.byLegacyId]
    refine ⟨hid, hl, Index.size_eq_of_get? hid, Index.size_eq_of_get? hl,
      Index.sorted_values_eq_of_get? hid, ?_⟩
    intro id l
    rw [hr.get?_eq_getByLegacyId?_iff, hq.get?_eq_getByLegacyId?_iff, hid, hl]

/-! ## Registrations made again -/

theorem registerAll_append (fs : List TypeEntry) : ∀ (es : List TypeEntry) (r : Registry),
    (r.registerAll (es ++ fs)).value = ((r.registerAll es).value.registerAll fs).value
  | [], _ => rfl
  | e :: rest, r => registerAll_append fs rest (r.register e).value.1

theorem ofHistory_append (es fs : List TypeEntry) :
    ofHistory (es ++ fs) = ((ofHistory es).registerAll fs).value := registerAll_append fs es empty

/-- What a registration gives back is what its identifier leads to afterwards. -/
theorem get?_register (r : Registry) (e : TypeEntry) :
    (r.register e).value.1.get? e.identifier = some (r.register e).value.2 := by
  rw [register, get?_registerObject, registerObject_result]
  exact if_pos rfl

theorem get?_registerAll_of_some {id : Identifier} {o : Object} : ∀ (es : List TypeEntry)
    {r : Registry}, r.get? id = some o → (r.registerAll es).value.get? id = some o
  | [], _, h => h
  | e :: rest, r, h => by
    have hnext : (r.register e).value.1.get? id = some o := by
      have hmint : (r.mint e).1.get? id = some o := h
      rw [register, get?_registerObject, hmint, Option.getD_some, ite_self]
    exact get?_registerAll_of_some rest hnext

/-- A registration that is made again gives back the object that it gave back before. -/
theorem register_ofHistory_again (before later : List TypeEntry) (e : TypeEntry) :
    ((ofHistory (before ++ e :: later)).register e).value.2 =
      ((ofHistory before).register e).value.2 := by
  have hthen : (ofHistory (before ++ [e])).get? e.identifier =
      some ((ofHistory before).register e).value.2 := by
    rw [ofHistory_append]
    exact get?_register _ e
  have hnow : (ofHistory (before ++ e :: later ++ [e])).get? e.identifier =
      some ((ofHistory (before ++ e :: later)).register e).value.2 := by
    rw [ofHistory_append _ [e]]
    exact get?_register _ e
  -- What the identifier led to then, it has led to ever since.
  have hsince := get?_registerAll_of_some (later ++ [e]) hthen
  rw [← ofHistory_append, List.append_assoc, List.singleton_append, ← List.cons_append,
    ← List.append_assoc] at hsince
  exact Option.some.inj (hnow.symm.trans hsince)

/-- Both keys of the entry are in use. -/
def InUse (r : Registry) (e : TypeEntry) : Prop :=
  e.identifier ∈ r.byIdentifier.keys ∧ e.legacyId ∈ r.byLegacyId.keys

theorem HoldsEntries.inUse (h : r.HoldsEntries es) {e : TypeEntry} (he : e ∈ es) : r.InUse e := by
  obtain ⟨offers, hr, rfl⟩ := h
  obtain ⟨o, ho, rfl⟩ := List.mem_map.1 he
  exact ⟨hr.byIdentifier.mem_keys.2 (List.mem_map_of_mem ho),
    hr.byLegacyId.mem_keys.2 (List.mem_map_of_mem ho)⟩

/-- A registration whose keys are in use makes an object and keeps it in neither index. -/
theorem register_of_inUse {e : TypeEntry} (h : r.InUse e) :
    (r.register e).value.1 = { r with minted := r.minted + 1 } := by
  rw [register, registerObject_indexes]
  show { r with
    byIdentifier := r.byIdentifier.insertIfNew e.identifier _
    byLegacyId := r.byLegacyId.insertIfNew e.legacyId _
    minted := r.minted + 1 } = _
  rw [Index.insertIfNew_of_mem h.1, Index.insertIfNew_of_mem h.2]

theorem registerAll_of_inUse : ∀ (es : List TypeEntry) {r : Registry}, (∀ e ∈ es, r.InUse e) →
    (r.registerAll es).value = { r with minted := r.minted + es.length }
  | [], _, _ => rfl
  | e :: rest, r, h => by
    have hrest : ∀ f ∈ rest, Registry.InUse { r with minted := r.minted + 1 } f :=
      fun f hf => h f (List.mem_cons_of_mem e hf)
    calc (r.registerAll (e :: rest)).value
        = ((r.register e).value.1.registerAll rest).value := rfl
      _ = (Registry.registerAll { r with minted := r.minted + 1 } rest).value := by
          rw [register_of_inUse (h e List.mem_cons_self)]
      _ = { r with minted := r.minted + 1 + rest.length } := registerAll_of_inUse rest hrest
      _ = { r with minted := r.minted + (e :: rest).length } := by
          rw [List.length_cons, Nat.add_assoc, Nat.add_comm 1]

end Registry

open Registry in
/-- Registries filled by two histories answer alike exactly if for every identifier and
every numeric id the first registration that bears it is the same. So neighbours that
share neither may change places anywhere in a history; and after a history, making any of
its registrations again, in any order and any number of times, changes neither index and
gives back the very objects given back before. -/
theorem first_registrations_settle :
    (∀ es fs, (ofHistory es).Alike (ofHistory fs) ↔ SameFirsts es fs) ∧
    (∀ before a b later, a.identifier ≠ b.identifier → a.legacyId ≠ b.legacyId →
      (ofHistory (before ++ a :: b :: later)).Alike (ofHistory (before ++ b :: a :: later))) ∧
    ∀ es again, (∀ e ∈ again, e ∈ es) →
      (ofHistory (es ++ again)).byIdentifier = (ofHistory es).byIdentifier ∧
      (ofHistory (es ++ again)).byLegacyId = (ofHistory es).byLegacyId ∧
      ∀ before e later made rest, es = before ++ e :: later → again = made ++ e :: rest →
        ((ofHistory (es ++ made)).register e).value.2 =
          ((ofHistory before).register e).value.2 := by
  refine ⟨?_, ?_, ?_⟩
  · -- histories of the same first registrations
    intro es fs
    exact alike_iff_sameFirsts (holdsEntries_ofHistory es) (holdsEntries_ofHistory fs)
  · -- neighbours change places
    intro before a b later hid hl
    exact (alike_iff_sameFirsts (holdsEntries_ofHistory _) (holdsEntries_ofHistory _)).2
      (SameFirsts.swap hid hl before later)
  · -- registrations made again
    intro es again hagain
    have hinUse : ∀ e ∈ again, (ofHistory es).InUse e :=
      fun e he => (holdsEntries_ofHistory es).inUse (hagain e he)
    have hregistry := (ofHistory_append es again).trans (registerAll_of_inUse again hinUse)
    refine ⟨by rw [hregistry], by rw [hregistry], ?_⟩
    rintro before e later made rest rfl -
    rw [List.append_assoc, List.cons_append]
    exact register_ofHistory_again before (later ++ made) e

open Registry in
/-- A lamp and an oil that share no key may change places. If they share a number and are
registered again the other way round, no number changes its owner, and the lamp that is given
back is the one of the first time. -/
theorem first_registrations_settle_lampAndOil :
    (ofHistory [⟨"lamp", 1⟩, ⟨"oil", 2⟩]).Alike (ofHistory [⟨"oil", 2⟩, ⟨"lamp", 1⟩]) ∧
    (ofHistory [⟨"lamp", 1⟩, ⟨"oil", 1⟩, ⟨"oil", 1⟩, ⟨"lamp", 1⟩]).byLegacyId =
      (ofHistory [⟨"lamp", 1⟩, ⟨"oil", 1⟩]).byLegacyId ∧
    ((ofHistory [⟨"lamp", 1⟩, ⟨"oil", 1⟩, ⟨"oil", 1⟩]).register ⟨"lamp", 1⟩).value.2 =
      (empty.register ⟨"lamp", 1⟩).value.2 := by
  obtain ⟨-, hswap, hagain⟩ := first_registrations_settle
  have hboth : ∀ e ∈ [(⟨"oil", 1⟩ : TypeEntry), ⟨"lamp", 1⟩],
      e ∈ [(⟨"lamp", 1⟩ : TypeEntry), ⟨"oil", 1⟩] := by decide
  obtain ⟨-, hnumbers, hobjects⟩ := hagain _ _ hboth
  refine ⟨?_, hnumbers, ?_⟩
  · exact hswap [] ⟨"lamp", 1⟩ ⟨"oil", 2⟩ [] (by decide) (by decide)
  · exact hobjects [] ⟨"lamp", 1⟩ [⟨"oil", 1⟩] [⟨"oil", 1⟩] [] rfl rfl

open Registry in
/-- With one key in common, neighbours may not change places: the first of them keeps it. -/
example : (ofHistory [⟨"a", 1⟩, ⟨"b", 1⟩]).getByLegacyId? 1 = some ⟨⟨"a", 1⟩, 0⟩ ∧
    (ofHistory [⟨"b", 1⟩, ⟨"a", 1⟩]).getByLegacyId? 1 = some ⟨⟨"b", 1⟩, 0⟩ := by decide

end RegistryTables
