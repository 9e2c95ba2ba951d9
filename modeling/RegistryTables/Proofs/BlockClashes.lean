import RegistryTables.Proofs.BlockList
import RegistryTables.Proofs.FirstWriter
import RegistryTables.Proofs.RepeatedKeys

/-
  When a block list fails, and with which clash.

  Blocks clash if their identifiers become equal without any `item.`. That may happen to
  any number of them, and to several groups of them at once. The pass over the survivors
  stops at the first that clashes with one before it, so the clash it reports is settled
  by the order of identifiers.

  What is proved:
    1. `survives_iff` — the survivors, said of the tables' identifiers alone.
    2. `firstRepeat_of_firstConflict` — the pass stops at the first survivor whose
       registered name is that of one before it.
    3. `clash_of_survivors` — a block list fails exactly if two survivors clash; the
       clash it reports is the one with the least second identifier.
    4. `eq_of_stripItemView_eq_of_survivors` — no two survivors strip to one name.
    5. `exists_blockList_of_viewInfixOnly` — so there is no clash where stripping takes away
       every `item.` that there is.
-/
namespace RegistryTables.Blocks

variable {palette legacyBlocks internalItems : IdTable}

/-- The identifiers taken are those of the blocks before, each under its registered name.
The pass stops at the first block whose name is among them. -/
theorem firstRepeat_of_firstConflict {e : BlockConflict} : ∀ (blocks before : List Block)
    {taken : Index Identifier Identifier},
    taken.FirstOf Identifier.withoutItemInfixes (before.map Block.identifier) →
    (before.map Block.registeredAs).Nodup → firstConflict taken blocks = some e →
    ∃ a b, FirstRepeat Block.registeredAs (before ++ blocks) a b ∧
      e = ⟨b.registeredAs, a.identifier, b.identifier⟩
  | [], _, _, _, _, h => by cases h
  | b :: rest, before, taken, htaken, hnodup, h => by
    have hnames : (before.map Block.identifier).map Identifier.withoutItemInfixes =
        before.map Block.registeredAs := List.map_map
    rw [firstConflict] at h
    cases hget : taken.get? b.registeredAs with
    | some first =>
      rw [hget] at h
      obtain ⟨hmem, hkey⟩ := htaken.get?_some hget
      obtain ⟨a, ha, rfl⟩ := List.mem_map.1 hmem
      exact ⟨a, b, ⟨before, rest, rfl, hnodup, ha, hkey⟩, (Option.some.inj h).symm⟩
    | none =>
      rw [hget] at h
      have hfree : b.registeredAs ∉ before.map Block.registeredAs := by
        rw [← hnames, ← htaken.mem_keys]
        exact Index.get?_eq_none_iff.1 hget
      have hnext := htaken.insertIfNew b.identifier
      rw [← List.map_singleton, ← List.map_append] at hnext
      have hnodup' : ((before ++ [b]).map Block.registeredAs).Nodup := by
        rw [List.map_append, List.map_singleton]
        exact List.nodup_append'.2 ⟨hnodup, List.nodup_singleton _,
          List.disjoint_singleton.2 hfree⟩
      have hrest := firstRepeat_of_firstConflict rest (before ++ [b]) hnext hnodup' h
      rwa [List.append_assoc, List.singleton_append] at hrest

/-- Of three frames with one name, the two least are reported. -/
example : firstConflict .empty [⟨"mod:a_sign", 7, false⟩,
    ⟨"mod:glow_item.frame", 4, false⟩, ⟨"mod:item.glow_frame", 3, false⟩,
    ⟨"mod:item.glow_item.frame", 1, false⟩] =
      some ⟨"mod:glow_frame", "mod:glow_item.frame", "mod:item.glow_frame"⟩ := by decide

theorem firstRepeat_of_resolve {e : BlockConflict}
    (h : (resolve palette legacyBlocks internalItems).value = .error e) :
    ∃ a b, FirstRepeat Block.registeredAs
        (survivors (candidates palette legacyBlocks internalItems)) a b ∧
      e = ⟨b.registeredAs, a.identifier, b.identifier⟩ := by
  simp only [resolve, Logged.value_bind] at h
  split at h
  next conflict hc =>
    obtain rfl := Except.error.inj h
    exact firstRepeat_of_firstConflict _ [] (Index.firstOf_empty _) List.nodup_nil hc
  next => cases h

theorem exists_error_iff :
    (∃ e, (resolve palette legacyBlocks internalItems).value = .error e) ↔
      ¬((survivors (candidates palette legacyBlocks internalItems)).map
        Block.registeredAs).Nodup := by
  constructor
  · rintro ⟨e, he⟩
    obtain ⟨a, b, hrepeat, -⟩ := firstRepeat_of_resolve he
    exact hrepeat.not_nodup
  · intro hrepeated
    cases hresult : (resolve palette legacyBlocks internalItems).value with
    | error e => exact ⟨e, rfl⟩
    | ok blocks =>
      obtain ⟨rfl, hnodup⟩ := resolve_eq_ok_iff.1 hresult
      exact absurd hnodup hrepeated

/-- A block list fails exactly if two survivors lose their `item.` to one name. The clash
it reports has the least survivor that shares its name with a lesser one, as the second;
the one lesser survivor of that name, as the first; and the name. A block list that does
not fail has the survivors, under pairwise different names. -/
theorem clash_of_survivors (palette legacyBlocks internalItems : IdTable) :
    let survives := Survives palette legacyBlocks internalItems
    let result := (resolve palette legacyBlocks internalItems).value
    ((∃ e, result = .error e) ↔ ∃ a b, survives a ∧ survives b ∧ a ≠ b ∧
      a.withoutItemInfixes = b.withoutItemInfixes) ∧
    (∀ e, result = .error e →
      survives e.second ∧
      (∀ a b, survives a → survives b → a < b →
        a.withoutItemInfixes = b.withoutItemInfixes → e.second ≤ b) ∧
      (∀ a, survives a ∧ a < e.second ∧
        a.withoutItemInfixes = e.second.withoutItemInfixes ↔ a = e.first) ∧
      e.identifier = e.first.withoutItemInfixes ∧ e.identifier = e.second.withoutItemInfixes) ∧
    ∀ blocks, result = .ok blocks →
      (∀ id, survives id ↔ ∃ b ∈ blocks, b.identifier = id) ∧
      (blocks.map Block.registeredAs).Nodup := by
  intro survives result
  have hasc : (survivors (candidates palette legacyBlocks internalItems)).Pairwise
      (fun a b => a.identifier < b.identifier) := pairwise_lt_survivors nodup_candidates
  have hmem : ∀ id, survives id ↔
      ∃ b ∈ survivors (candidates palette legacyBlocks internalItems), b.identifier = id :=
    fun _ => survives_iff
  refine ⟨?_, ?_, ?_⟩
  · -- whether it fails
    rw [exists_error_iff]
    constructor
    · intro hrepeated
      by_contra hnone
      refine hrepeated (List.pairwise_map.2 (hasc.imp_of_mem ?_))
      intro a b ha hb hlt hname
      exact hnone ⟨_, _, (hmem _).2 ⟨a, ha, rfl⟩, (hmem _).2 ⟨b, hb, rfl⟩, Std.ne_of_lt hlt, hname⟩
    · rintro ⟨a, b, ha, hb, hne, hname⟩ hnodup
      obtain ⟨c, hc, rfl⟩ := (hmem a).1 ha
      obtain ⟨d, hd, rfl⟩ := (hmem b).1 hb
      exact hne (congrArg Block.identifier (List.inj_on_of_nodup_map hnodup hc hd hname))
  · -- the clash
    intro e he
    obtain ⟨a, b, hrepeat, rfl⟩ := firstRepeat_of_resolve he
    refine ⟨(hmem _).2 ⟨b, hrepeat.mem_second, rfl⟩, ?_, ?_, hrepeat.key_eq.symm, rfl⟩
    · intro x y hx hy hlt hname
      obtain ⟨c, hc, rfl⟩ := (hmem x).1 hx
      obtain ⟨d, hd, rfl⟩ := (hmem y).1 hy
      exact hrepeat.least hasc hc hd hlt hname
    · intro x
      constructor
      · rintro ⟨hx, hlt, hname⟩
        obtain ⟨c, hc, rfl⟩ := (hmem x).1 hx
        exact congrArg Block.identifier (hrepeat.eq_first hasc hc hlt hname)
      · rintro rfl
        exact ⟨(hmem _).2 ⟨a, hrepeat.mem_first, rfl⟩, hrepeat.lt hasc, hrepeat.key_eq⟩
  · -- a block list
    intro blocks hblocks
    obtain ⟨rfl, hnodup⟩ := resolve_eq_ok_iff.1 hblocks
    exact ⟨hmem, hnodup⟩

/-! ## No clash -/

/-- What the item views leave does not strip to one name: two item views never do, and a
plain entry is no item view's name. -/
theorem eq_of_stripItemView_eq_of_survivors {a b : Block}
    (ha : a ∈ survivors (candidates palette legacyBlocks internalItems))
    (hb : b ∈ survivors (candidates palette legacyBlocks internalItems))
    (h : Identifier.stripItemView a.identifier = Identifier.stripItemView b.identifier) :
    a.identifier = b.identifier := by
  obtain ⟨hacandidate, haleft⟩ := mem_survivors.1 ha
  obtain ⟨hbcandidate, hbleft⟩ := mem_survivors.1 hb
  have hflag : ∀ c ∈ candidates palette legacyBlocks internalItems, ∀ v, c.isItemView = v →
      Identifier.isItemView c.identifier = v := by
    intro c hc v hv
    rw [← isItemView_of_mem_candidates hc, hv]
  cases hva : a.isItemView with
  | true =>
    cases hvb : b.isItemView with
    | true =>
      exact Identifier.eq_of_stripItemView_eq (hflag a hacandidate _ hva)
        (hflag b hbcandidate _ hvb) h
    | false =>
      rw [Identifier.stripItemView_of_plain (hflag b hbcandidate _ hvb)] at h
      exact absurd h (hbleft.resolve_left (by simp [hvb]) a hacandidate hva)
  | false =>
    rw [Identifier.stripItemView_of_plain (hflag a hacandidate _ hva)] at h
    cases hvb : b.isItemView with
    | true => exact absurd h.symm (haleft.resolve_left (by simp [hva]) b hbcandidate hvb)
    | false => rwa [Identifier.stripItemView_of_plain (hflag b hbcandidate _ hvb)] at h

/-- Where no known entry of the palette has an `item.` but that of an item view, there is a
block list, whatever plain entries and item views the palette mixes. -/
theorem exists_blockList_of_viewInfixOnly
    (h : ∀ id, Known palette legacyBlocks internalItems id → id.ViewInfixOnly) :
    ∃ blocks, (resolve palette legacyBlocks internalItems).value = .ok blocks := by
  refine ⟨_, resolve_eq_ok_iff.2 ⟨rfl, List.pairwise_map.2 ?_⟩⟩
  refine (pairwise_lt_survivors nodup_candidates).imp_of_mem ?_
  intro a b ha hb hlt hname
  have hstrip : ∀ c ∈ survivors (candidates palette legacyBlocks internalItems),
      c.registeredAs = Identifier.stripItemView c.identifier := by
    intro c hc
    have hknown := known_of_mem_candidates (mem_survivors.1 hc).1
    exact Identifier.withoutItemInfixes_of_viewInfixOnly (h _ hknown)
  rw [hstrip a ha, hstrip b hb] at hname
  exact Std.ne_of_lt hlt (eq_of_stripItemView_eq_of_survivors ha hb hname)

/-- A palette with both entries of a stick, and with two frames that would clash. -/
def stickAndFrames : IdTable :=
  ⟨[("minecraft:stick", 3), ("minecraft:item.stick", 2), ("minecraft:glow_item.frame", 5),
    ("minecraft:glow_frame", 6)], by decide⟩

def plainStickAndFrame : IdTable :=
  ⟨[("minecraft:stick", 1), ("minecraft:glow_frame", 1)], by decide⟩

def stickView : IdTable := ⟨[("minecraft:item.stick", 280)], by decide⟩

/-- Both entries of the stick are known, and of the frames the one without an `item.`, so the
two frames do not clash. -/
theorem exists_blockList_of_viewInfixOnly_stickAndFrames :
    (∀ id, Known stickAndFrames plainStickAndFrame stickView id → id.ViewInfixOnly) ∧
    ∃ blocks, (resolve stickAndFrames plainStickAndFrame stickView).value = .ok blocks := by
  have hall : ∀ id ∈ stickAndFrames.keys,
      id ∈ plainStickAndFrame.keys ∨ id ∈ stickView.keys → id.ViewInfixOnly := by decide
  have h : ∀ id, Known stickAndFrames plainStickAndFrame stickView id → id.ViewInfixOnly :=
    fun id hid => hall id hid.1 hid.2
  exact ⟨h, exists_blockList_of_viewInfixOnly h⟩

end RegistryTables.Blocks
