import RegistryTables.Sources
import RegistryTables.Proofs.TagHistory

/-
  Indexes of tags that are built from a table.

  A build registers one tag after the other, in the order of their names. The names that
  are taken on the way are those of the tags before, so a tag can only fail on a name
  that occurs twice, and no name of a table does.

  What is proved:
    1. `registerAll_eq_of_free` — tags of different names, none of them taken, are all
       registered and reported, whatever their members and the registry are;
       `entries_offerAll` — and the index has them in the order of their registration.
    2. `build_table` — so a build from a table succeeds, with the tags of the table.
-/
namespace RegistryTables.TagIndex

theorem register_eq_offer {r : TagIndex} {t : Tag} (h : t.name ∉ r.byName.keys) :
    r.register t = (r.offer t, .ok t) := by
  rw [offer, register_of_free h]

theorem mem_keys_offer {r : TagIndex} {t : Tag} {n : String} :
    n ∈ (r.offer t).byName.keys ↔ n = t.name ∨ n ∈ r.byName.keys := by
  rw [offer_byName]
  exact Index.mem_keys_insertIfNew

/-- The index after an attempt to register each of the tags, resolved against the registry. -/
def offerAll (types : Registry) (r : TagIndex) (source : List (String × List Identifier)) :
    TagIndex :=
  source.foldl (fun r e => r.offer (Tag.resolve e.1 e.2 types)) r

/-- The entries of a source as attempts to register their tags. -/
def resolutions {types : Registry} (h : types.Reachable)
    (source : List (String × List Identifier)) : List Resolution :=
  source.map fun e => ⟨e.1, e.2, types, h⟩

theorem offerAll_eq_after {types : Registry} (h : types.Reachable)
    (source : List (String × List Identifier)) :
    empty.offerAll types source = after (resolutions h source) := by
  rw [after, resolutions, List.foldl_map]
  rfl

theorem inStep_offerAll {types : Registry} (h : types.Reachable)
    (source : List (String × List Identifier)) : (empty.offerAll types source).InStep := by
  rw [offerAll_eq_after h]
  exact inStep_after _

theorem mem_keys_offerAll (types : Registry) {n : String} :
    ∀ (source : List (String × List Identifier)) (r : TagIndex),
    n ∈ (r.offerAll types source).byName.keys ↔ n ∈ source.map Prod.fst ∨ n ∈ r.byName.keys
  | [], _ => by simp [offerAll]
  | (name, members) :: rest, r => by
    rw [offerAll, List.foldl_cons]
    refine (mem_keys_offerAll types rest _).trans ?_
    rw [mem_keys_offer, List.map_cons, List.mem_cons, or_left_comm, or_assoc]
    rfl

/-! ## Different names -/

/-- After the first of some tags of different names, the names of the others are still free. -/
theorem free_of_offer {r : TagIndex} {t : Tag} {rest : List (String × List Identifier)}
    (hname : t.name ∉ rest.map Prod.fst) (hfree : ∀ e ∈ rest, e.1 ∉ r.byName.keys) :
    ∀ e ∈ rest, e.1 ∉ (r.offer t).byName.keys := by
  intro e he htaken
  rcases mem_keys_offer.1 htaken with heq | hbefore
  · exact hname (List.mem_map.2 ⟨e, he, heq⟩)
  · exact hfree e he hbefore

/-- The names taken when a tag is registered are those taken at first and those of the
tags before it, so its own name is free. -/
theorem registerAll_eq_of_free (types : Registry) : ∀ (source : List (String × List Identifier))
    (r : TagIndex), (source.map Prod.fst).Nodup → (∀ e ∈ source, e.1 ∉ r.byName.keys) →
    registerAll types r source = ⟨.ok (r.offerAll types source),
      source.flatMap fun e => reportDangling (Tag.resolve e.1 e.2 types)⟩
  | [], _, _, _ => rfl
  | (name, members) :: rest, r, hnodup, hfree => by
    obtain ⟨hname, hrest⟩ := List.nodup_cons.1 hnodup
    have hok := register_eq_offer (t := Tag.resolve name members types)
      (hfree _ List.mem_cons_self)
    have hlater := registerAll_eq_of_free types rest (r.offer (Tag.resolve name members types))
      hrest (free_of_offer hname (fun e he => hfree e (List.mem_cons_of_mem _ he)))
    simp only [registerAll, hok, hlater]
    rfl

theorem registerAll_of_free (types : Registry) (source : List (String × List Identifier))
    (r : TagIndex) (hnodup : (source.map Prod.fst).Nodup)
    (hfree : ∀ e ∈ source, e.1 ∉ r.byName.keys) :
    (registerAll types r source).value = .ok (r.offerAll types source) := by
  rw [registerAll_eq_of_free types source r hnodup hfree]

/-- Each of the tags takes a place of its own, behind the tags that were registered before. -/
theorem entries_offerAll (types : Registry) : ∀ (source : List (String × List Identifier))
    (r : TagIndex), (source.map Prod.fst).Nodup → (∀ e ∈ source, e.1 ∉ r.byName.keys) →
    (r.offerAll types source).byName.entries =
      r.byName.entries ++ source.map fun e => (e.1, Tag.resolve e.1 e.2 types)
  | [], r, _, _ => (List.append_nil r.byName.entries).symm
  | (name, members) :: rest, r, hnodup, hfree => by
    obtain ⟨hname, hrest⟩ := List.nodup_cons.1 hnodup
    have hlater := entries_offerAll types rest (r.offer (Tag.resolve name members types)) hrest
      (free_of_offer hname (fun e he => hfree e (List.mem_cons_of_mem _ he)))
    have hfirst : (Tag.resolve name members types).name ∉ r.byName.keys :=
      hfree _ List.mem_cons_self
    rw [offerAll, List.foldl_cons]
    refine hlater.trans ?_
    rw [offer_byName, Index.entries_insertIfNew hfirst, List.append_assoc, List.singleton_append,
      List.map_cons]
    rfl

/-- A table is built whatever it has as members, and whatever is registered. -/
theorem build_table (table : MemberTable) (types : Registry) :
    (build table.entries types).value = .ok (empty.offerAll types table.sorted) := by
  have hnodup : (table.sorted.map Prod.fst).Nodup :=
    ((sortOn_perm Prod.fst table.entries).map Prod.fst).nodup_iff.2 table.keys_nodup
  exact registerAll_of_free types _ _ hnodup (fun _ _ h => absurd h List.not_mem_nil)

end RegistryTables.TagIndex
