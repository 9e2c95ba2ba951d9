import RegistryTables.Blocks
import RegistryTables.Proofs.ItemInfixes
import RegistryTables.Proofs.SortedLists

/-
  Which entries of a palette become blocks.

  What is proved:
    1. `mem_candidates`, `mem_survivors`, `survives_iff` — which entries are candidates,
       and which of them the item views leave.
    2. `resolve_eq_ok_iff` — a block list is the survivors, if they are registered under
       pairwise different identifiers, and there is no block list otherwise;
       `pairwise_lt_blockList` — it ascends strictly.
    3. `exists_survivor` — of every candidate there is a survivor that is registered
       under the same identifier: itself, or its item view.
-/
namespace RegistryTables.Blocks

variable {palette legacyBlocks internalItems : IdTable}

/-- An identifier of the palette that one of the two tables knows. -/
def Known (palette legacyBlocks internalItems : IdTable) (id : Identifier) : Prop :=
  id ∈ palette.keys ∧ (id ∈ legacyBlocks.keys ∨ id ∈ internalItems.keys)

/-! ## Candidates -/

theorem mem_candidates {b : Block} :
    b ∈ candidates palette legacyBlocks internalItems ↔
      palette.get? b.identifier = some b.legacyId ∧
        (b.identifier ∈ legacyBlocks.keys ∨ b.identifier ∈ internalItems.keys) ∧
        b.isItemView = Identifier.isItemView b.identifier := by
  rw [candidates, List.mem_map, Index.get?_eq_some_iff]
  simp only [List.mem_filter, Bool.or_eq_true, Index.contains_iff]
  constructor
  · intro hx
    obtain ⟨e, ⟨hmem, hknown⟩, rfl⟩ := hx
    exact ⟨hmem, hknown, rfl⟩
  · intro hx
    obtain ⟨hmem, hknown, hview⟩ := hx
    refine ⟨(b.identifier, b.legacyId), ⟨hmem, hknown⟩, ?_⟩
    rw [← hview]

/-- The candidates are the known identifiers, each with the number of the palette. -/
theorem exists_candidate {id : Identifier} (h : Known palette legacyBlocks internalItems id) :
    ∃ b ∈ candidates palette legacyBlocks internalItems, b.identifier = id := by
  obtain ⟨n, hn⟩ := Index.mem_keys_iff.1 h.1
  exact ⟨⟨id, n, Identifier.isItemView id⟩, mem_candidates.2 ⟨hn, h.2, rfl⟩, rfl⟩

theorem known_of_mem_candidates {b : Block}
    (h : b ∈ candidates palette legacyBlocks internalItems) :
    Known palette legacyBlocks internalItems b.identifier := by
  obtain ⟨hget, hknown, -⟩ := mem_candidates.1 h
  exact ⟨Index.mem_keys_iff.2 ⟨_, hget⟩, hknown⟩

theorem isItemView_of_mem_candidates {b : Block}
    (h : b ∈ candidates palette legacyBlocks internalItems) :
    b.isItemView = Identifier.isItemView b.identifier :=
  (mem_candidates.1 h).2.2

theorem nodup_candidates :
    ((candidates palette legacyBlocks internalItems).map Block.identifier).Nodup := by
  rw [candidates, List.map_map]
  exact palette.keys_nodup.sublist (List.filter_sublist.map Prod.fst)

/-! ## Survivors -/

/-- Every item view survives, and a plain entry unless an item view strips to it. -/
theorem mem_survivors {blocks : List Block} {b : Block} :
    b ∈ survivors blocks ↔ b ∈ blocks ∧ (b.isItemView = true ∨ ∀ v ∈ blocks,
      v.isItemView = true → Identifier.stripItemView v.identifier ≠ b.identifier) := by
  simp only [survivors, mem_sortOn, List.mem_filter, Bool.or_eq_true, Bool.not_eq_true',
    decide_eq_false_iff_not, List.mem_map, not_exists, not_and, and_imp]

/-- A known entry of the palette that the item views leave: it is one itself, or no known
item view strips to it. -/
def Survives (palette legacyBlocks internalItems : IdTable) (id : Identifier) : Prop :=
  Known palette legacyBlocks internalItems id ∧
    (id.isItemView = true ∨ ∀ v, Known palette legacyBlocks internalItems v →
      v.isItemView = true → v.stripItemView ≠ id)

theorem survives_iff {id : Identifier} :
    Survives palette legacyBlocks internalItems id ↔
      ∃ b ∈ survivors (candidates palette legacyBlocks internalItems), b.identifier = id := by
  constructor
  · intro hx
    obtain ⟨hknown, hleft⟩ := hx
    obtain ⟨b, hb, rfl⟩ := exists_candidate hknown
    rw [← isItemView_of_mem_candidates hb] at hleft
    refine ⟨b, mem_survivors.2 ⟨hb, hleft.imp_right ?_⟩, rfl⟩
    intro hnone v hv hview
    rw [isItemView_of_mem_candidates hv] at hview
    exact hnone v.identifier (known_of_mem_candidates hv) hview
  · intro hx
    obtain ⟨b, hb, rfl⟩ := hx
    obtain ⟨hcandidate, hleft⟩ := mem_survivors.1 hb
    rw [isItemView_of_mem_candidates hcandidate] at hleft
    refine ⟨known_of_mem_candidates hcandidate, hleft.imp_right ?_⟩
    intro hnone v hv hview
    obtain ⟨c, hc, rfl⟩ := exists_candidate hv
    rw [← isItemView_of_mem_candidates hc] at hview
    exact hnone c hc hview

theorem pairwise_lt_survivors {blocks : List Block} (h : (blocks.map Block.identifier).Nodup) :
    (survivors blocks).Pairwise (fun a b => a.identifier < b.identifier) :=
  pairwise_lt_sortOn (h.sublist (List.filter_sublist.map Block.identifier))

/-- Of every candidate there is a survivor registered under the same identifier. It is
the candidate itself, unless that is plain and an item view strips to it. -/
theorem exists_survivor {b : Block} {blocks : List Block} (hb : b ∈ blocks) :
    ∃ k ∈ survivors blocks, k.registeredAs = b.registeredAs ∧
      (k = b ∨ b.isItemView = false ∧ k.isItemView = true ∧
        Identifier.stripItemView k.identifier = b.identifier) := by
  by_cases hkept : b ∈ survivors blocks
  · exact ⟨b, hkept, rfl, Or.inl rfl⟩
  · simp only [mem_survivors, hb, true_and, not_or, not_forall, Bool.not_eq_true] at hkept
    obtain ⟨hplain, v, hv, hview, hstrip⟩ := hkept
    have hstrip := not_not.1 hstrip
    refine ⟨v, mem_survivors.2 ⟨hv, Or.inl hview⟩, ?_, Or.inr ⟨hplain, hview, hstrip⟩⟩
    rw [Block.registeredAs, Block.registeredAs, ← hstrip,
      Identifier.withoutItemInfixes_stripItemView]

/-! ## Clashes -/

theorem firstConflict_eq_none_iff : ∀ (blocks : List Block) (taken : Index Identifier Identifier),
    firstConflict taken blocks = none ↔
      (blocks.map Block.registeredAs).Nodup ∧ ∀ b ∈ blocks, b.registeredAs ∉ taken.keys
  | [], _ => by simp [firstConflict]
  | b :: rest, taken => by
    -- The identifiers taken are those of the blocks before, so the rest must avoid this one too.
    rw [firstConflict]
    cases hget : taken.get? b.registeredAs with
    | some first =>
      have htaken : b.registeredAs ∈ taken.keys := Index.mem_keys_iff.2 ⟨first, hget⟩
      simp [htaken]
    | none =>
      have hfree := Index.get?_eq_none_iff.1 hget
      simp only [firstConflict_eq_none_iff rest, Index.mem_keys_insertIfNew, List.map_cons,
        List.nodup_cons, List.mem_map, List.mem_cons, forall_eq_or_imp, not_or, not_exists, not_and]
      constructor
      · intro hx
        obtain ⟨hnodup, hrest⟩ := hx
        exact ⟨⟨fun c hc => (hrest c hc).1, hnodup⟩, hfree, fun c hc => (hrest c hc).2⟩
      · intro hx
        obtain ⟨⟨hb, hnodup⟩, -, hrest⟩ := hx
        exact ⟨hnodup, fun c hc => ⟨hb c hc, hrest c hc⟩⟩

theorem events_resolve : (resolve palette legacyBlocks internalItems).events =
    [.blocksRecognised (candidates palette legacyBlocks internalItems).length palette.size] := by
  simp only [resolve, Logged.events_bind]
  split <;> rfl

theorem resolve_eq_ok_iff {blocks : List Block} :
    (resolve palette legacyBlocks internalItems).value = .ok blocks ↔
      blocks = survivors (candidates palette legacyBlocks internalItems) ∧
        (blocks.map Block.registeredAs).Nodup := by
  have hnone := firstConflict_eq_none_iff
    (survivors (candidates palette legacyBlocks internalItems)) .empty
  simp only [resolve, Logged.value_bind]
  split
  next conflict hc =>
    constructor
    · intro h
      cases h
    · intro hx
      obtain ⟨rfl, hnodup⟩ := hx
      rw [hnone.2 ⟨hnodup, fun _ _ h => absurd h List.not_mem_nil⟩] at hc
      cases hc
  next hc =>
    constructor
    · intro h
      obtain rfl := Except.ok.inj h
      exact ⟨rfl, (hnone.1 hc).1⟩
    · intro hx
      obtain ⟨rfl, -⟩ := hx
      rfl

theorem pairwise_lt_blockList {blocks : List Block}
    (h : (resolve palette legacyBlocks internalItems).value = .ok blocks) :
    blocks.Pairwise (fun a b => a.identifier < b.identifier) := by
  obtain ⟨rfl, -⟩ := resolve_eq_ok_iff.1 h
  exact pairwise_lt_survivors nodup_candidates

end RegistryTables.Blocks
