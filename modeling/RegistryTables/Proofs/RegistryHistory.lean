import RegistryTables.Registry
import RegistryTables.Proofs.FirstWriter

/-
  What a registry holds after any calls on it.

  A registry is used through three calls: an entry is registered, an object is made
  and kept back, and an object made before is registered, perhaps not for the first
  time. A `Ledger` is a registry in use, with the objects made for it and the objects
  offered to it, in order. Offers that the registry discarded stand in the ledger like
  any other.

  What is proved:
    1. `Registry.Holds.registerObject` — one more offer keeps both indexes at the
       first offer of each key.
    2. `Ledger.sound_after` — so they are after any calls, and every object offered is
       one of those made, which are pairwise different.
    3. `earliest_after_call` — what every call gives back and reports, and what the
       registry answers after it, in terms of the offers alone.
-/
namespace RegistryTables

namespace Registry

/-- The registry has, under every identifier and under every numeric id, the first of
the objects offered to it that bear it. -/
structure Holds (r : Registry) (offers : List Object) : Prop where
  byIdentifier : r.byIdentifier.FirstOf (fun o => o.identifier) offers
  byLegacyId : r.byLegacyId.FirstOf (fun o => o.legacyId) offers

theorem holds_empty : empty.Holds [] := ⟨Index.firstOf_empty _, Index.firstOf_empty _⟩

/-- A registration offers the object to both indexes, whatever it reports. -/
theorem registerObject_indexes (r : Registry) (o : Object) :
    (r.registerObject o).value.1 =
      { r with
        byIdentifier := r.byIdentifier.insertIfNew o.identifier o
        byLegacyId := r.byLegacyId.insertIfNew o.legacyId o } := by
  unfold registerObject
  cases h : r.byIdentifier.get? o.identifier with
  | some first =>
    have hm : o.identifier ∈ r.byIdentifier.keys := Index.mem_keys_iff.2 ⟨first, h⟩
    rw [Index.insertIfNew_of_mem hm]
  | none => rfl

variable {r : Registry} {offers : List Object}

theorem Holds.mint (h : r.Holds offers) (e : TypeEntry) : (r.mint e).1.Holds offers :=
  ⟨h.byIdentifier, h.byLegacyId⟩

theorem Holds.registerObject (h : r.Holds offers) (o : Object) :
    (r.registerObject o).value.1.Holds (offers ++ [o]) := by
  rw [registerObject_indexes]
  exact ⟨h.byIdentifier.insertIfNew o, h.byLegacyId.insertIfNew o⟩

/-- What a registration gives back is the first offer of the identifier, the object
itself counted. -/
theorem Holds.registerObject_result (h : r.Holds offers) (o : Object) :
    (offers ++ [o]).find? (fun p => p.identifier = o.identifier) =
      some (r.registerObject o).value.2 := by
  have hfirst : r.get? o.identifier = _ := h.byIdentifier o.identifier
  rw [RegistryTables.Registry.registerObject_result, hfirst, List.find?_append]
  cases offers.find? (fun p => p.identifier = o.identifier) <;> simp

/-- A registration is reported exactly if an earlier offer bears the identifier. -/
theorem Holds.registerObject_events (h : r.Holds offers) (o : Object) :
    (r.registerObject o).events =
      if o.identifier ∈ offers.map (fun p => p.identifier)
      then [.duplicateDiscarded o.identifier o.legacyId] else [] := by
  rw [RegistryTables.Registry.registerObject_events]
  exact if_congr h.byIdentifier.contains_iff rfl rfl

theorem Holds.size_eq (h : r.Holds offers) :
    r.size = (offers.map fun o => o.identifier).toFinset.card := h.byIdentifier.size_eq

theorem Holds.legacySize_eq (h : r.Holds offers) :
    r.legacySize = (offers.map fun o => o.legacyId).toFinset.card := h.byLegacyId.size_eq

theorem Holds.identifier_eq (h : r.Holds offers) {id : Identifier} {o : Object}
    (ho : r.get? id = some o) : o.identifier = id := (h.byIdentifier.get?_some ho).2

end Registry

inductive Call where
  | register (e : TypeEntry)
  /-- Makes an object that is not registered yet. -/
  | make (e : TypeEntry)
  /-- Registers the object at a place of those made so far, registered or not. -/
  | registerObject (place : Nat)
  deriving DecidableEq, Repr

/-- A registry in use. -/
structure Ledger where
  registry : Registry
  /-- The objects made for the registry, in order. -/
  made : List Object
  /-- The objects offered to the registry, in order, whether it kept them or not. -/
  offered : List Object

namespace Ledger

def empty : Ledger := ⟨.empty, [], []⟩

/-- The object that a call offers to the registry, if it offers one. -/
def offer? (u : Ledger) : Call → Option Object
  | .register e => some (u.registry.mint e).2
  | .make _ => none
  | .registerObject place => u.made[place]?

/-- The ledger after a call, and the object that the call gives back if it offered one. -/
def call (u : Ledger) : Call → Logged (Ledger × Option Object)
  | .register e => do
    let o := (u.registry.mint e).2
    let (registry, first) ← u.registry.register e
    pure (⟨registry, u.made ++ [o], u.offered ++ [o]⟩, some first)
  | .make e =>
    let (registry, o) := u.registry.mint e
    pure (⟨registry, u.made ++ [o], u.offered⟩, none)
  | .registerObject place =>
    match u.made[place]? with
    | none => pure (u, none)
    | some o => do
      let (registry, first) ← u.registry.registerObject o
      pure (⟨registry, u.made, u.offered ++ [o]⟩, some first)

def after (calls : List Call) : Ledger := calls.foldl (fun u c => (u.call c).value.1) empty

theorem after_append_singleton (calls : List Call) (c : Call) :
    after (calls ++ [c]) = ((after calls).call c).value.1 := by
  rw [after, List.foldl_append]
  rfl

/-! ## The invariant -/

/-- The registry holds what was offered, the objects made bear the serial numbers from
zero on, and nothing was offered that was not made. -/
structure Sound (u : Ledger) : Prop where
  holds : u.registry.Holds u.offered
  serials : u.made.map (fun o => o.serial) = List.range u.registry.minted
  offered_made : ∀ o ∈ u.offered, o ∈ u.made

theorem sound_empty : empty.Sound := ⟨Registry.holds_empty, rfl, fun _ h => h⟩

variable {u : Ledger}

/-- An object that is made now differs from all objects made before. -/
theorem Sound.fresh (h : u.Sound) (e : TypeEntry) : (u.registry.mint e).2 ∉ u.made := by
  intro hm
  have hs : u.registry.minted ∈ u.made.map (fun o => o.serial) := List.mem_map.2 ⟨_, hm, rfl⟩
  rw [h.serials, List.mem_range] at hs
  exact Nat.lt_irrefl _ hs

theorem Sound.made_nodup (h : u.Sound) : u.made.Nodup := by
  have hs : (u.made.map fun o => o.serial).Nodup := by
    rw [h.serials]
    exact List.nodup_range
  exact List.Nodup.of_map _ hs

/-- What a call does to a sound ledger if it offers an object. -/
structure Offers (u : Ledger) (c : Call) (o : Object) : Prop where
  offered : (u.call c).value.1.offered = u.offered ++ [o]
  holds : (u.call c).value.1.registry.Holds (u.offered ++ [o])
  result : (u.call c).value.2 = (u.offered ++ [o]).find? (fun p => p.identifier = o.identifier)
  events : (u.call c).events =
    if o.identifier ∈ u.offered.map (fun p => p.identifier)
    then [.duplicateDiscarded o.identifier o.legacyId] else []

theorem Sound.offers (h : u.Sound) {c : Call} {o : Object} (hc : u.offer? c = some o) :
    u.Offers c o := by
  cases c with
  | register e =>
    obtain rfl : (u.registry.mint e).2 = o := Option.some.inj hc
    have hmint := h.holds.mint e
    refine ⟨rfl, hmint.registerObject _, (hmint.registerObject_result _).symm, ?_⟩
    rw [← hmint.registerObject_events]
    exact List.append_nil _
  | make e => cases hc
  | registerObject place =>
    have hplace : u.made[place]? = some o := hc
    refine ⟨?_, ?_, ?_, ?_⟩ <;> simp only [call, hplace]
    · rfl
    · exact h.holds.registerObject o
    · exact (h.holds.registerObject_result o).symm
    · rw [← h.holds.registerObject_events o]
      exact List.append_nil _

/-- A call that offers an object gives back the first offer of its identifier. That is the
object itself exactly if it is the first, now or since an earlier call. -/
theorem Sound.exists_first (h : u.Sound) {c : Call} {o : Object} (hc : u.offer? c = some o) :
    ∃ first, (u.call c).value.2 = some first ∧
      (u.offered ++ [o]).find? (fun p => p.identifier = o.identifier) = some first ∧
      (first = o ↔ o.identifier ∉ u.offered.map (fun p => p.identifier) ∨
        u.offered.find? (fun p => p.identifier = o.identifier) = some o) := by
  rw [(h.offers hc).result, List.find?_append]
  cases hbefore : u.offered.find? (fun p => p.identifier = o.identifier) with
  | some first =>
    have hmem : o.identifier ∈ u.offered.map (fun p => p.identifier) :=
      List.mem_map.2 ⟨first, List.mem_of_find?_eq_some hbefore,
        by simpa using List.find?_some hbefore⟩
    exact ⟨first, rfl, rfl, by simp [hmem]⟩
  | none =>
    have hnew : o.identifier ∉ u.offered.map (fun p => p.identifier) :=
      (Index.find?_key_eq_none (fun p : Object => p.identifier) _ _).1 hbefore
    exact ⟨o, by simp, by simp, by simp [hnew]⟩

/-- A call that offers nothing adds no offer, gives nothing back and reports nothing. -/
theorem call_of_offer?_none {c : Call} (hc : u.offer? c = none) :
    (u.call c).value.1.offered = u.offered ∧ (u.call c).value.2 = none ∧
      (u.call c).events = [] := by
  cases c with
  | register e => cases hc
  | make e => exact ⟨rfl, rfl, rfl⟩
  | registerObject place =>
    have hplace : u.made[place]? = none := hc
    simp only [call, hplace]
    exact ⟨rfl, rfl, rfl⟩

theorem Sound.level_of_mem_events (h : u.Sound) {c : Call} {e : Event}
    (he : e ∈ (u.call c).events) : e.level = .trace := by
  cases hc : u.offer? c with
  | none =>
    rw [(call_of_offer?_none hc).2.2] at he
    cases he
  | some o =>
    rw [(h.offers hc).events] at he
    split at he
    · rw [List.mem_singleton.1 he]
      rfl
    · cases he

theorem Sound.call (h : u.Sound) (c : Call) : (u.call c).value.1.Sound := by
  -- Only calls that make an object touch the serial numbers, and they use the next one.
  have hmade : ∀ e, (u.made ++ [(u.registry.mint e).2]).map (fun o => o.serial) =
      List.range (u.registry.minted + 1) := by
    intro e
    rw [List.map_append, h.serials, List.range_succ]
    rfl
  have hold : ∀ e, ∀ o ∈ u.offered, o ∈ u.made ++ [(u.registry.mint e).2] :=
    fun e o ho => List.mem_append_left _ (h.offered_made o ho)
  cases c with
  | register e =>
    have ho := h.offers (c := .register e) rfl
    refine ⟨ho.holds, ?_, ?_⟩
    · have hminted : ((u.registry.mint e).1.registerObject (u.registry.mint e).2).value.1.minted =
          u.registry.minted + 1 := by rw [Registry.registerObject_indexes]; rfl
      exact (hmade e).trans (congrArg List.range hminted.symm)
    · intro o hm
      rcases List.mem_append.1 hm with hm | hm
      · exact hold e o hm
      · exact List.mem_append_right _ hm
  | make e => exact ⟨h.holds.mint e, hmade e, hold e⟩
  | registerObject place =>
    cases hplace : u.made[place]? with
    | none =>
      simp only [Ledger.call, hplace]
      exact h
    | some o =>
      have hholds := (h.offers (c := .registerObject place) hplace).holds
      simp only [Ledger.call, hplace] at hholds ⊢
      refine ⟨hholds, ?_, ?_⟩
      · show u.made.map (fun o => o.serial) =
          List.range (u.registry.registerObject o).value.1.minted
        rw [Registry.registerObject_indexes]
        exact h.serials
      · intro p hp
        rcases List.mem_append.1 hp with hp | hp
        · exact h.offered_made p hp
        · rw [List.mem_singleton.1 hp]
          exact List.mem_of_getElem? hplace

theorem sound_after (calls : List Call) : (after calls).Sound := by
  induction calls using List.reverseRecOn with
  | nil => exact sound_empty
  | append_singleton calls c ih =>
    rw [after_append_singleton]
    exact ih.call c

end Ledger

def Registry.Reachable (r : Registry) : Prop := ∃ calls, (Ledger.after calls).registry = r

theorem Registry.reachable_empty : Registry.empty.Reachable := ⟨[], rfl⟩

theorem Registry.Reachable.register {r : Registry} (h : r.Reachable) (e : TypeEntry) :
    (r.register e).value.1.Reachable := by
  obtain ⟨calls, rfl⟩ := h
  refine ⟨calls ++ [.register e], ?_⟩
  rw [Ledger.after_append_singleton]
  rfl

theorem Registry.Reachable.identifier_eq {r : Registry} (h : r.Reachable) {id : Identifier}
    {o : Object} (ho : r.get? id = some o) : o.identifier = id := by
  obtain ⟨calls, rfl⟩ := h
  exact (Ledger.sound_after calls).holds.identifier_eq ho

open Ledger in
/-- After any calls on a new registry and one more, every lookup gives the earliest
object offered under its key, and the sizes count the different keys offered. A call
that offers an object gives back the earliest of its identifier. That is the object
itself exactly if none of its identifier was offered before, or it was the earliest of
them, and a call that registers an entry offers an object that is new. A discarded
object is reported, and nothing else is. -/
theorem earliest_after_call (calls : List Call) (c : Call) :
    let u := after calls
    let v := after (calls ++ [c])
    (∀ k, v.registry.get? k = v.offered.find? (fun o => o.identifier = k)) ∧
    (∀ l, v.registry.getByLegacyId? l = v.offered.find? (fun o => o.legacyId = l)) ∧
    v.registry.size = (v.offered.map fun o => o.identifier).toFinset.card ∧
    v.registry.legacySize = (v.offered.map fun o => o.legacyId).toFinset.card ∧
    (∀ o, u.offer? c = some o →
      v.offered = u.offered ++ [o] ∧
      (∃ first, (u.call c).value.2 = some first ∧
        v.offered.find? (fun p => p.identifier = o.identifier) = some first ∧
        (first = o ↔ o.identifier ∉ u.offered.map (fun p => p.identifier) ∨
          u.offered.find? (fun p => p.identifier = o.identifier) = some o)) ∧
      (u.call c).events =
        if o.identifier ∈ u.offered.map (fun p => p.identifier)
        then [.duplicateDiscarded o.identifier o.legacyId] else []) ∧
    (u.offer? c = none →
      v.offered = u.offered ∧ (u.call c).value.2 = none ∧ (u.call c).events = []) ∧
    (∀ e, c = .register e → ∃ o, u.offer? c = some o ∧ o.toTypeEntry = e ∧ o ∉ u.made) ∧
    (∀ e ∈ (u.call c).events, e.level = .trace) ∧
    v.made.Nodup ∧ ∀ o ∈ v.offered, o ∈ v.made := by
  intro u v
  have hu : u.Sound := sound_after calls
  have hv : v.Sound := sound_after (calls ++ [c])
  have hstep : v = (u.call c).value.1 := after_append_singleton calls c
  refine ⟨hv.holds.byIdentifier, hv.holds.byLegacyId, hv.holds.size_eq, hv.holds.legacySize_eq,
    ?_, ?_, ?_, fun _ => hu.level_of_mem_events, hv.made_nodup, hv.offered_made⟩
  · -- an object is offered
    intro o ho
    have hoffers := hu.offers ho
    rw [hstep, hoffers.offered]
    exact ⟨rfl, hu.exists_first ho, hoffers.events⟩
  · -- nothing is offered
    intro hnone
    obtain ⟨hoffered, hresult, hevents⟩ := call_of_offer?_none hnone
    exact ⟨by rw [hstep, hoffered], hresult, hevents⟩
  · -- a new object
    intro e he
    subst he
    exact ⟨_, rfl, rfl, hu.fresh e⟩

end RegistryTables
