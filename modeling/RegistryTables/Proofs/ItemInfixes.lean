import RegistryTables.Identifier
import Mathlib.Data.List.Basic

/-
  Item views and the names without their `item.`.

  What is proved:
    1. `itemViewRest?_eq_some_iff` — an item view is `minecraft:item.` and a rest, and
       stripping it leaves `minecraft:` and the rest; `isItemView_iff_append` and
       `stripItemView_append` say so of strings.
    2. `withoutItemInfixes_stripItemView` — an item view and the plain name it strips to
       have the same name without any `item.`.
    3. `withoutItemInfixes_of_viewInfixOnly` — a name with no other `item.` than that of an
       item view loses what stripping the item view takes away, and no more.
-/
namespace RegistryTables.Identifier

theorem itemViewRest?_eq_some_iff {id : Identifier} {rest : List Char} :
    id.itemViewRest? = some rest ↔ id.toList = itemViewMark ++ rest := by
  rw [itemViewRest?, List.isPrefixOf?_eq_some_iff_append_eq, eq_comm]

theorem isItemView_iff {id : Identifier} :
    id.isItemView = true ↔ ∃ rest, id.toList = itemViewMark ++ rest := by
  rw [isItemView, Option.isSome_iff_exists]
  exact exists_congr fun _ => itemViewRest?_eq_some_iff

theorem stripItemView_of_plain {id : Identifier} (h : id.isItemView = false) :
    id.stripItemView = id := by
  have hrest : id.itemViewRest? = none := by simpa [isItemView] using h
  rw [stripItemView, hrest]

theorem toList_stripItemView {id : Identifier} {rest : List Char}
    (h : id.toList = itemViewMark ++ rest) :
    id.stripItemView.toList = "minecraft:".toList ++ rest := by
  rw [stripItemView, itemViewRest?_eq_some_iff.2 h]
  simp [vanilla]

theorem toList_eq_append_iff {id mark : String} {rest : List Char} :
    id.toList = mark.toList ++ rest ↔ id = mark ++ String.ofList rest := by
  rw [← String.toList_inj, String.toList_append, String.toList_ofList]

theorem isItemView_iff_append {id : Identifier} :
    id.isItemView = true ↔ ∃ rest : String, id = "minecraft:item." ++ rest := by
  rw [isItemView_iff]
  constructor
  · rintro ⟨rest, hrest⟩
    exact ⟨String.ofList rest, toList_eq_append_iff.1 hrest⟩
  · rintro ⟨rest, rfl⟩
    exact ⟨rest.toList, String.toList_append⟩

theorem stripItemView_append (rest : String) :
    stripItemView ("minecraft:item." ++ rest) = "minecraft:" ++ rest := by
  have hview : ("minecraft:item." ++ rest).toList = itemViewMark ++ rest.toList :=
    String.toList_append
  rw [← String.toList_inj, toList_stripItemView hview, String.toList_append]

/-- No `item.` starts within `minecraft:`, and the one of an item view follows it at once,
so both names lose the same characters. -/
theorem withoutItemInfixes_stripItemView (id : Identifier) :
    id.stripItemView.withoutItemInfixes = id.withoutItemInfixes := by
  cases h : id.isItemView with
  | false => rw [stripItemView_of_plain h]
  | true =>
    obtain ⟨rest, hrest⟩ := isItemView_iff.1 h
    have hplain : dropInfixes ("minecraft:".toList ++ rest) =
        "minecraft:".toList ++ dropInfixes rest := rfl
    have hview : dropInfixes (itemViewMark ++ rest) =
        "minecraft:".toList ++ dropInfixes rest := rfl
    rw [withoutItemInfixes, withoutItemInfixes, toList_stripItemView hrest, hrest, hplain, hview]

/-- Different item views strip to different names. -/
theorem eq_of_stripItemView_eq {a b : Identifier} (ha : a.isItemView = true)
    (hb : b.isItemView = true) (h : a.stripItemView = b.stripItemView) : a = b := by
  obtain ⟨rest, hrest⟩ := isItemView_iff.1 ha
  obtain ⟨rest', hrest'⟩ := isItemView_iff.1 hb
  have hstripped := congrArg String.toList h
  rw [toList_stripItemView hrest, toList_stripItemView hrest', List.append_cancel_left_eq]
    at hstripped
  rw [← String.toList_inj, hrest, hrest', hstripped]

/-! ## Where an `item.` stands -/

/-- An `item.` starts at the place. -/
def InfixAt (id : Identifier) (n : Nat) : Prop := "item.".toList <+: id.toList.drop n

/-- There is no `item.` in the identifier, but the one of an item view that it may be. -/
def ViewInfixOnly (id : Identifier) : Prop :=
  ∀ n, id.InfixAt n → id.isItemView = true ∧ n = "minecraft:".length

instance (id : Identifier) (n : Nat) : Decidable (id.InfixAt n) :=
  inferInstanceAs (Decidable ("item.".toList <+: id.toList.drop n))

theorem lt_length_of_mark {cs : List Char} {n : Nat} (h : "item.".toList <+: cs.drop n) :
    n < cs.length := by
  have hlength := h.length_le
  rw [List.length_drop] at hlength
  have hmark : "item.".toList.length = 5 := by decide
  omega

theorem InfixAt.lt_length {id : Identifier} {n : Nat} (h : id.InfixAt n) :
    n < id.toList.length := lt_length_of_mark h

instance (id : Identifier) : Decidable id.ViewInfixOnly :=
  decidable_of_iff (∀ n < id.toList.length, id.InfixAt n →
      id.isItemView = true ∧ n = "minecraft:".length)
    ⟨fun h n hn => h n hn.lt_length hn, fun h n _ hn => h n hn⟩

theorem dropInfixes_of_noInfix (cs : List Char) (h : ∀ n, ¬ "item.".toList <+: cs.drop n) :
    dropInfixes cs = cs := by
  induction cs using dropInfixes.induct with
  | case1 rest ih => exact absurd (List.prefix_append "item.".toList rest) (h 0)
  | case2 c rest hne ih =>
    rw [dropInfixes.eq_2 c rest hne, ih (fun n => h (n + 1))]
  | case3 => rfl

theorem withoutItemInfixes_of_viewInfixOnly {id : Identifier} (h : id.ViewInfixOnly) :
    id.withoutItemInfixes = id.stripItemView := by
  cases hview : id.isItemView with
  | false =>
    have hnone : ∀ n, ¬ id.InfixAt n := by
      intro n hn
      rw [(h n hn).1] at hview
      cases hview
    rw [stripItemView_of_plain hview, withoutItemInfixes, dropInfixes_of_noInfix _ hnone,
      String.ofList_toList]
  | true =>
    obtain ⟨rest, hrest⟩ := isItemView_iff.1 hview
    -- An `item.` of the rest would start behind the item view.
    have hnone : ∀ n, ¬ "item.".toList <+: rest.drop n := by
      intro n hn
      have hplace : id.InfixAt (itemViewMark.length + n) := by
        rw [InfixAt, hrest, List.drop_length_add_append]
        exact hn
      have hlength := (h _ hplace).2
      have hmark : itemViewMark.length = "minecraft:".length + 5 := by decide
      omega
    have hdropped : dropInfixes (itemViewMark ++ rest) = "minecraft:".toList ++ dropInfixes rest :=
      rfl
    rw [← String.toList_inj, withoutItemInfixes, String.toList_ofList, hrest, hdropped,
      dropInfixes_of_noInfix rest hnone, toList_stripItemView hrest]

end RegistryTables.Identifier
