import RegistryTables.Blocks
import RegistryTables.Proofs.InfixRemoval

/-
  The parts of an identifier and its infixes.

  No `item.` has a separator in it, so none stands across the separator of an identifier,
  and none can be put together across it: namespace and key lose their own infixes, each
  as if it stood alone.

  What is proved:
    1. `cleanCut_separator`, `dropInfixes_separator` — removal goes on separately on both
       sides of a separator.
    2. `parts_of_append`, `parts_of_not_mem` — the parts are what stands on both sides of
       the first separator.
    3. `removal_keeps_parts` — the parts of the registered name are those of the identifier
       without their infixes, and an item view and its plain counterpart are registered
       under one name.
-/
namespace RegistryTables.Identifier

variable {as bs : List Char}

/-- Nothing stands across a separator. -/
theorem cleanCut_separator (as bs : List Char) : CleanCut as (':' :: bs) := by
  intro n hn hmark
  apply Nat.le_of_not_lt
  intro hshort
  have hno : ∀ k < 5, "item.".toList[k]? ≠ some ':' := by decide
  have hat := markAt_iff.1 hmark (as.length - n) (by omega)
  rw [Nat.add_sub_cancel' (Nat.le_of_lt hn), List.getElem?_append_right (Nat.le_refl _),
    Nat.sub_self] at hat
  exact hno _ (by omega) hat.symm

theorem dropInfixes_separator (as bs : List Char) :
    dropInfixes (as ++ ':' :: bs) = dropInfixes as ++ ':' :: dropInfixes bs := by
  rw [dropInfixes_append (cleanCut_separator as bs)]
  rfl

theorem parts_of_append {id : Identifier} (h : id.toList = as ++ ':' :: bs) (hno : ':' ∉ as) :
    id.namespace? = some (String.ofList as) ∧ id.key = String.ofList bs := by
  have hfront : ∀ c ∈ as, decide (c ≠ ':') = true := by
    intro c hc
    rw [decide_eq_true_eq]
    rintro rfl
    exact hno hc
  have hsep : ':' ∈ as ++ ':' :: bs := by simp
  rw [namespace?, key, h, if_pos hsep, if_pos hsep, List.takeWhile_append_of_pos hfront,
    List.dropWhile_append_of_pos hfront]
  simp

theorem parts_of_not_mem {id : Identifier} (h : ':' ∉ id.toList) :
    id.namespace? = none ∧ id.key = id := by
  rw [namespace?, key, if_neg h, if_neg h]
  exact ⟨rfl, rfl⟩

/-- **Removal keeps the parts of an identifier apart.** An item view and its plain counterpart
are registered under one name. The namespace of what is left is that of the identifier without
its infixes, and so is the key, however many separators and infixes there are: no text moves
from one into the other. -/
theorem removal_keeps_parts (id : Identifier) :
    id.stripItemView.withoutItemInfixes = id.withoutItemInfixes ∧
    (∀ view plain : Block, view.identifier = id → plain.identifier = id.stripItemView →
      plain.registeredAs = view.registeredAs) ∧
    id.withoutItemInfixes.namespace? = id.namespace?.map withoutItemInfixes ∧
    (id.withoutItemInfixes.namespace? = none ↔ id.namespace? = none) ∧
    id.withoutItemInfixes.key = withoutItemInfixes id.key := by
  have hview := withoutItemInfixes_stripItemView id
  suffices hparts : id.withoutItemInfixes.namespace? = id.namespace?.map withoutItemInfixes ∧
      id.withoutItemInfixes.key = withoutItemInfixes id.key by
    obtain ⟨hnamespace, hkey⟩ := hparts
    refine ⟨hview, ?_, hnamespace, ?_, hkey⟩
    · rintro view plain rfl hplain
      rw [Block.registeredAs, hplain, hview, Block.registeredAs]
    · rw [hnamespace, Option.map_eq_none_iff]
  have hleft : id.withoutItemInfixes.toList = dropInfixes id.toList := String.toList_ofList
  by_cases hsep : ':' ∈ id.toList
  · obtain ⟨as, bs, hid, hno⟩ := List.eq_append_cons_of_mem hsep
    rw [hid, dropInfixes_separator] at hleft
    have hno' : ':' ∉ dropInfixes as := fun h => hno ((dropInfixes_sublist as).mem h)
    obtain ⟨hnamespace, hkey⟩ := parts_of_append hid hno
    obtain ⟨hnamespace', hkey'⟩ := parts_of_append hleft hno'
    rw [hnamespace, hkey, hnamespace', hkey']
    simp [withoutItemInfixes]
  · have hsep' : ':' ∉ id.withoutItemInfixes.toList := by
      rw [hleft]
      exact fun h => hsep ((dropInfixes_sublist _).mem h)
    obtain ⟨hnamespace, hkey⟩ := parts_of_not_mem hsep
    obtain ⟨hnamespace', hkey'⟩ := parts_of_not_mem hsep'
    rw [hnamespace, hkey, hnamespace', hkey']
    exact ⟨rfl, rfl⟩

/-- The key may have a separator and an infix of its own. -/
theorem removal_keeps_parts_twoSeparators :
    Block.registeredAs ⟨"minecraft:a:item.b", 2, false⟩ =
      Block.registeredAs ⟨"minecraft:item.a:item.b", 1, true⟩ ∧
    (withoutItemInfixes "minecraft:item.a:item.b").namespace? = some "minecraft" ∧
    (withoutItemInfixes "minecraft:item.a:item.b").key = "a:b" := by
  obtain ⟨-, hviews, hnamespace, -, hkey⟩ := removal_keeps_parts "minecraft:item.a:item.b"
  refine ⟨hviews ⟨_, 1, true⟩ ⟨_, 2, false⟩ rfl (by decide), ?_, ?_⟩
  · rw [hnamespace]
    decide
  · rw [hkey]
    decide

end RegistryTables.Identifier
