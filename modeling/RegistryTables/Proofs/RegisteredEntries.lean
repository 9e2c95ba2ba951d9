import RegistryTables.Session
import RegistryTables.Proofs.RegistryHistory

/-
  Registries filled from lists of entries, and what they report on the way.

  What is proved:
    1. `Registry.HoldsEntries.register` — registering an entry adds it to the entries
       that the registry holds, and is reported if its identifier was among them.
    2. `Types.Hold.registerItems`, `Types.Hold.registerBlocks` — items add to the item
       registry, blocks to both.
    3. `Types.Hold.registerItems_events`, `Types.Hold.registerBlocks_events` — items of
       different identifiers are registered in silence; of such blocks exactly those
       are reported whose identifier is an item's, and only as shadows.
-/
namespace RegistryTables

def TypeEntry.discarded (e : TypeEntry) : Event := .duplicateDiscarded e.identifier e.legacyId

namespace Registry

/-- The registry has, under every identifier and under every numeric id, the first of
the entries that bear it. -/
def HoldsEntries (r : Registry) (es : List TypeEntry) : Prop :=
  ∃ offers, r.Holds offers ∧ offers.map Object.toTypeEntry = es

theorem holdsEntries_empty : empty.HoldsEntries [] := ⟨[], holds_empty, rfl⟩

variable {r : Registry} {es : List TypeEntry}

theorem HoldsEntries.get? (h : r.HoldsEntries es) (id : Identifier) :
    (r.get? id).map Object.toTypeEntry = es.find? (fun e => e.identifier = id) := by
  obtain ⟨offers, hr, rfl⟩ := h
  rw [Registry.get?, hr.byIdentifier, List.find?_map]
  rfl

/-- Where no two entries share an identifier, every entry is found. -/
theorem HoldsEntries.get?_of_mem (h : r.HoldsEntries es)
    (hnodup : (es.map TypeEntry.identifier).Nodup) {e : TypeEntry} (he : e ∈ es) :
    (r.get? e.identifier).map Object.toTypeEntry = some e := by
  rw [h.get?]
  exact (Index.find?_key_eq_some_iff hnodup).2 he

theorem HoldsEntries.getByLegacyId? (h : r.HoldsEntries es) (l : LegacyId) :
    (r.getByLegacyId? l).map Object.toTypeEntry = es.find? (fun e => e.legacyId = l) := by
  obtain ⟨offers, hr, rfl⟩ := h
  rw [Registry.getByLegacyId?, hr.byLegacyId, List.find?_map]
  rfl

theorem HoldsEntries.contains_iff (h : r.HoldsEntries es) {id : Identifier} :
    r.contains id = true ↔ id ∈ es.map TypeEntry.identifier := by
  obtain ⟨offers, hr, rfl⟩ := h
  rw [contains, hr.byIdentifier.contains_iff, List.map_map]
  rfl

theorem HoldsEntries.size_eq (h : r.HoldsEntries es) :
    r.size = (es.map TypeEntry.identifier).toFinset.card := by
  obtain ⟨offers, hr, rfl⟩ := h
  rw [hr.size_eq, List.map_map]
  rfl

/-- Of entries in two lists, each without repetitions, those of the second list count
whose identifier is not in the first. -/
theorem HoldsEntries.size_append {fs : List TypeEntry} (h : r.HoldsEntries (es ++ fs))
    (hes : (es.map TypeEntry.identifier).Nodup) (hfs : (fs.map TypeEntry.identifier).Nodup) :
    r.size = es.length +
      (fs.filter (fun f => f.identifier ∉ es.map TypeEntry.identifier)).length := by
  obtain ⟨new, hnew⟩ : ∃ new,
      new = fs.filter (fun f => f.identifier ∉ es.map TypeEntry.identifier) := ⟨_, rfl⟩
  have hmem : ∀ f, f ∈ new ↔ f ∈ fs ∧ f.identifier ∉ es.map TypeEntry.identifier := by
    intro f
    rw [hnew, List.mem_filter, decide_eq_true_eq]
  have hnodup : ((es ++ new).map TypeEntry.identifier).Nodup := by
    rw [List.map_append, List.nodup_append]
    refine ⟨hes, ?_, ?_⟩
    · rw [hnew]
      exact hfs.sublist (List.filter_sublist.map TypeEntry.identifier)
    · intro x hx y hy hxy
      obtain ⟨f, hf, rfl⟩ := List.mem_map.1 hy
      exact ((hmem f).1 hf).2 (hxy ▸ hx)
  -- The entries that are left out bear identifiers of the first list.
  have hsame : ((es ++ fs).map TypeEntry.identifier).toFinset =
      ((es ++ new).map TypeEntry.identifier).toFinset := by
    ext x
    simp only [List.mem_toFinset, List.map_append, List.mem_append]
    by_cases hx : x ∈ es.map TypeEntry.identifier
    · simp only [hx, true_or]
    · simp only [hx, false_or]
      constructor
      · intro hin
        obtain ⟨f, hf, rfl⟩ := List.mem_map.1 hin
        exact List.mem_map_of_mem ((hmem f).2 ⟨hf, hx⟩)
      · intro hin
        obtain ⟨f, hf, rfl⟩ := List.mem_map.1 hin
        exact List.mem_map_of_mem ((hmem f).1 hf).1
  rw [← hnew]
  calc r.size = ((es ++ fs).map TypeEntry.identifier).toFinset.card := h.size_eq
    _ = ((es ++ new).map TypeEntry.identifier).toFinset.card := by rw [hsame]
    _ = ((es ++ new).map TypeEntry.identifier).length := List.toFinset_card_of_nodup hnodup
    _ = es.length + new.length := by rw [List.length_map, List.length_append]

theorem HoldsEntries.register (h : r.HoldsEntries es) (e : TypeEntry) :
    (r.register e).value.1.HoldsEntries (es ++ [e]) := by
  obtain ⟨offers, hr, rfl⟩ := h
  exact ⟨offers ++ [(r.mint e).2], (hr.mint e).registerObject _, List.map_append⟩

theorem HoldsEntries.register_events (h : r.HoldsEntries es) (e : TypeEntry) :
    (r.register e).events =
      if e.identifier ∈ es.map TypeEntry.identifier then [e.discarded] else [] := by
  obtain ⟨offers, hr, rfl⟩ := h
  rw [Registry.register, (hr.mint e).registerObject_events, List.map_map]
  rfl

end Registry

namespace Types

structure Hold (t : Types) (blocks items : List TypeEntry) : Prop where
  block : t.block.HoldsEntries blocks
  item : t.item.HoldsEntries items

theorem hold_empty : empty.Hold [] [] :=
  ⟨Registry.holdsEntries_empty, Registry.holdsEntries_empty⟩

variable {t : Types} {blocks items : List TypeEntry}

theorem Hold.registerItem (h : t.Hold blocks items) (e : TypeEntry) :
    (t.registerItem e).value.1.Hold blocks (items ++ [e]) :=
  ⟨h.block, h.item.register e⟩

theorem Hold.registerItem_events (h : t.Hold blocks items) (e : TypeEntry) :
    (t.registerItem e).events =
      if e.identifier ∈ items.map TypeEntry.identifier then [e.discarded] else [] := by
  rw [← h.item.register_events e]
  exact List.append_nil _

/-- A block is registered as a block and then as an item, and reported once for each. -/
theorem Hold.registerBlock (h : t.Hold blocks items) (e : TypeEntry) :
    (t.registerBlock e).value.1.Hold (blocks ++ [e]) (items ++ [e]) :=
  ⟨h.block.register e, h.item.register e⟩

theorem Hold.registerBlock_events (h : t.Hold blocks items) (e : TypeEntry) :
    (t.registerBlock e).events =
      (if e.identifier ∈ blocks.map TypeEntry.identifier then [e.discarded] else []) ++
      (if e.identifier ∈ items.map TypeEntry.identifier then [e.discarded] else []) := by
  rw [← h.block.register_events e, ← h.item.register_events e]
  exact congrArg ((t.block.register e).events ++ ·) (List.append_nil _)

theorem Hold.registerItems : ∀ (es : List TypeEntry) {t : Types} {blocks items : List TypeEntry},
    t.Hold blocks items → (t.registerItems es).value.Hold blocks (items ++ es)
  | [], _, _, _, h => by
    rw [List.append_nil]
    exact h
  | e :: rest, _, _, items, h => by
    have hrest := Hold.registerItems rest (h.registerItem e)
    rw [List.append_assoc] at hrest
    exact hrest

theorem Hold.registerBlocks : ∀ (es : List TypeEntry) {t : Types} {blocks items : List TypeEntry},
    t.Hold blocks items → (t.registerBlocks es).value.Hold (blocks ++ es) (items ++ es)
  | [], _, _, _, h => by
    rw [List.append_nil, List.append_nil]
    exact h
  | e :: rest, _, _, _, h => by
    have hrest := Hold.registerBlocks rest (h.registerBlock e)
    rw [List.append_assoc, List.append_assoc] at hrest
    exact hrest

theorem Hold.registerItems_events : ∀ (es : List TypeEntry) {t : Types}
    {blocks items : List TypeEntry}, t.Hold blocks items →
    ((items ++ es).map TypeEntry.identifier).Nodup → (t.registerItems es).events = []
  | [], _, _, _, _, _ => rfl
  | e :: rest, t, _, items, h, hnodup => by
    have hnew : e.identifier ∉ items.map TypeEntry.identifier := by
      intro hmem
      rw [List.map_append, List.map_cons] at hnodup
      exact (List.nodup_append.1 hnodup).2.2 _ hmem _ List.mem_cons_self rfl
    have hrest := Hold.registerItems_events rest (h.registerItem e)
      (by rw [List.append_assoc]; exact hnodup)
    rw [Types.registerItems, Logged.events_bind, h.registerItem_events, if_neg hnew,
      List.nil_append]
    exact hrest

/-- Where no identifier is a block's yet, the block registry has nothing to report, and
the item registry discards exactly the shadows whose identifier is an item's. -/
theorem Hold.registerBlocks_events : ∀ (es : List TypeEntry) {t : Types}
    {blocks items : List TypeEntry}, t.Hold blocks items →
    ((blocks ++ es).map TypeEntry.identifier).Nodup →
    (t.registerBlocks es).events =
      (es.filter (fun e => e.identifier ∈ items.map TypeEntry.identifier)).map TypeEntry.discarded
  | [], _, _, _, _, _ => rfl
  | e :: rest, t, blocks, items, h, hnodup => by
    have hnodup' : ((blocks ++ [e] ++ rest).map TypeEntry.identifier).Nodup := by
      rw [List.append_assoc]
      exact hnodup
    rw [List.map_append, List.map_cons] at hnodup
    obtain ⟨-, hcons, hdisjoint⟩ := List.nodup_append.1 hnodup
    have hnew : e.identifier ∉ blocks.map TypeEntry.identifier :=
      fun hmem => hdisjoint _ hmem _ List.mem_cons_self rfl
    have hlater : ∀ f ∈ rest, f.identifier ≠ e.identifier := fun f hf he =>
      (List.nodup_cons.1 hcons).1 (he ▸ List.mem_map_of_mem hf)
    -- The shadow of this block does not make an item of any later one.
    have hsame : rest.filter (fun f => f.identifier ∈ (items ++ [e]).map TypeEntry.identifier) =
        rest.filter (fun f => f.identifier ∈ items.map TypeEntry.identifier) := by
      apply List.filter_congr
      intro f hf
      simp [hlater f hf]
    rw [Types.registerBlocks, Logged.events_bind, h.registerBlock_events, if_neg hnew,
      List.nil_append]
    have hrest := Hold.registerBlocks_events rest (h.registerBlock e) hnodup'
    rw [hsame] at hrest
    by_cases hitem : e.identifier ∈ items.map TypeEntry.identifier
    · rw [if_pos hitem, List.filter_cons_of_pos (by simpa using hitem), List.map_cons]
      exact congrArg (e.discarded :: ·) hrest
    · rw [if_neg hitem, List.filter_cons_of_neg (by simpa using hitem), List.nil_append]
      exact hrest

end Types

end RegistryTables
