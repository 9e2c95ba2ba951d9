import RegistryTables.Proofs.HeldObjects
import RegistryTables.Proofs.StableOrder
import RegistryTables.Proofs.TagHistory

/-
  What a tag has after it is resolved.

  A tag keeps its members in order, each once, and has the object of each that is
  registered. The objects come in the order of the members, which is that of their own
  identifiers: a registry has every object under the identifier it bears.

  What is proved:
    1. `mem_types_resolve`, `pairwise_lt_types_resolve` — the types are the objects that
       the registry has for the members, ascending by identifier.
    2. `mem_unresolved_resolve` — the members left over are those that are not registered.
    3. `perm_members_resolve` — the identifiers of the types and the members left over are
       the members, each once.
    4. `mem_types_resolve_of_later` — a registry that extends another one adds types for the
       members left over, and for no others.
    5. `resolve_over_time` — what a tag has, and what a tag of its name and members has that
       is resolved after further registrations.
-/
namespace RegistryTables.Tag

variable {name : String} {members : List Identifier} {types : Registry}

theorem mem_members_resolve {id : Identifier} :
    id ∈ (resolve name members types).members ↔ id ∈ members := mem_distinct

theorem pairwise_lt_members_resolve :
    (resolve name members types).members.Pairwise (· < ·) := pairwise_lt_distinct members

theorem nodup_members_resolve : (resolve name members types).members.Nodup :=
  pairwise_lt_members_resolve.imp Std.ne_of_lt

theorem mem_types_resolve {o : Object} :
    o ∈ (resolve name members types).types ↔ ∃ id ∈ members, types.get? id = some o := by
  simp only [resolve, List.mem_filterMap, mem_distinct]

theorem pairwise_lt_types_resolve (h : types.Reachable) :
    (resolve name members types).types.Pairwise (fun o p => o.identifier < p.identifier) := by
  refine (pairwise_lt_distinct members).filterMap types.get? ?_
  intro m n hlt o ho p hp
  rw [h.identifier_eq ho, h.identifier_eq hp]
  exact hlt

theorem mem_unresolved_resolve (h : types.Reachable) {id : Identifier} :
    id ∈ (resolve name members types).unresolved ↔ id ∈ members ∧ types.contains id = false := by
  have htype : ((resolve name members types).hasType id = false) ↔
      ¬(id ∈ members ∧ types.contains id = true) := by
    rw [← hasType_resolve h, Bool.not_eq_true]
  rw [unresolved, List.mem_filter, mem_members_resolve, Bool.not_eq_true']
  constructor
  · rintro ⟨hid, hnone⟩
    have hnot := htype.1 hnone
    exact ⟨hid, Bool.eq_false_iff.2 fun hc => hnot ⟨hid, hc⟩⟩
  · rintro ⟨hid, hfree⟩
    refine ⟨hid, htype.2 ?_⟩
    rintro ⟨-, hc⟩
    rw [hfree] at hc
    cases hc

theorem mem_identifiers_resolve (h : types.Reachable) {id : Identifier} :
    id ∈ (resolve name members types).types.map (fun o => o.identifier) ↔
      id ∈ members ∧ types.contains id = true := by
  rw [← hasType_iff, hasType_resolve h]

/-- A registry leads to its objects by their own identifiers, so to those of a tag as well. -/
theorem mem_types_resolve_iff_own (h : types.Reachable) {o : Object} :
    o ∈ (resolve name members types).types ↔
      o.identifier ∈ members ∧ types.get? o.identifier = some o := by
  rw [mem_types_resolve]
  constructor
  · rintro ⟨id, hid, hget⟩
    rw [h.identifier_eq hget]
    exact ⟨hid, hget⟩
  · rintro ⟨hid, hget⟩
    exact ⟨_, hid, hget⟩

/-- Every member has an object or is left over, and none does both. -/
theorem perm_members_resolve (h : types.Reachable) :
    ((resolve name members types).types.map (fun o => o.identifier) ++
      (resolve name members types).unresolved).Perm (resolve name members types).members := by
  have hnodup : ((resolve name members types).types.map (fun o => o.identifier) ++
      (resolve name members types).unresolved).Nodup := by
    refine List.nodup_append.2 ⟨nodup_map_of_pairwise_lt (pairwise_lt_types_resolve h),
      nodup_members_resolve.filter _, ?_⟩
    rintro id hid _ hleft rfl
    have hregistered := ((mem_identifiers_resolve h).1 hid).2
    rw [((mem_unresolved_resolve h).1 hleft).2] at hregistered
    cases hregistered
  refine (List.perm_ext_iff_of_nodup hnodup nodup_members_resolve).2 ?_
  intro id
  rw [List.mem_append, mem_identifiers_resolve h, mem_unresolved_resolve h, mem_members_resolve,
    ← and_or_left]
  cases types.contains id <;> simp

/-- How many identifiers of a list the registry does not have, each counted once. -/
def missing (types : Registry) (members : List Identifier) : Nat :=
  (members.toFinset.filter (fun id => types.contains id = false)).card

theorem length_unresolved_resolve (h : types.Reachable) :
    (resolve name members types).unresolved.length = missing types members := by
  have hnodup : (resolve name members types).unresolved.Nodup :=
    nodup_members_resolve.filter _
  have hsame : (resolve name members types).unresolved.toFinset =
      members.toFinset.filter (fun id => types.contains id = false) := by
    ext id
    rw [List.mem_toFinset, mem_unresolved_resolve h, Finset.mem_filter, List.mem_toFinset]
  rw [missing, ← hsame, List.toFinset_card_of_nodup hnodup]

theorem resolve_eq_of_mem_iff {members' : List Identifier}
    (h : ∀ id, id ∈ members' ↔ id ∈ members) :
    resolve name members' types = resolve name members types := by
  rw [resolve, resolve, distinct_eq_of_mem_iff h]

/-- A registry that still has all objects of an earlier one gives a tag the types it had, and
those it has now for the members that were left over. -/
theorem mem_types_resolve_of_later {now : Registry} (h : types.Reachable) (hnow : now.Reachable)
    (hsince : ∀ id o, types.get? id = some o → now.get? id = some o) {o : Object} :
    o ∈ (resolve name members now).types ↔ o ∈ (resolve name members types).types ∨
      o.identifier ∈ (resolve name members types).unresolved ∧
        now.get? o.identifier = some o := by
  rw [mem_types_resolve_iff_own hnow, mem_types_resolve_iff_own h, mem_unresolved_resolve h]
  constructor
  · rintro ⟨hmember, hget⟩
    cases hthen : types.get? o.identifier with
    | some p =>
      -- An object that was found then is the one that is found now.
      obtain rfl : p = o := Option.some.inj ((hsince _ _ hthen).symm.trans hget)
      exact Or.inl ⟨hmember, rfl⟩
    | none =>
      have hfree : types.contains o.identifier = false :=
        decide_eq_false (Index.get?_eq_none_iff.1 hthen)
      exact Or.inr ⟨⟨hmember, hfree⟩, hget⟩
  · rintro (⟨hmember, hget⟩ | ⟨⟨hmember, -⟩, hget⟩)
    · exact ⟨hmember, hsince _ _ hget⟩
    · exact ⟨hmember, hget⟩

/-- A tag that is resolved after any calls does not depend on the order of its members, or
on how often one occurs. Its types ascend, and are the objects that the registry has for
members; together with the members left over they account for every member once. After
any further calls the registry still has each of the types, and a tag of the same name
and members has these types, and those found since for the members that were left over. -/
theorem resolve_over_time (calls later : List Call) (name : String) (members : List Identifier) :
    let types := (Ledger.after calls).registry
    let now := (Ledger.after (calls ++ later)).registry
    let t := resolve name members types
    let u := resolve name members now
    (∀ members', (∀ id, id ∈ members' ↔ id ∈ members) → resolve name members' types = t) ∧
    t.types.Pairwise (fun o p => o.identifier < p.identifier) ∧
    (∀ o, o ∈ t.types ↔ o.identifier ∈ members ∧ types.get? o.identifier = some o) ∧
    t.members.Pairwise (· < ·) ∧
    (∀ id, id ∈ t.members ↔ id ∈ members) ∧
    (∀ id, id ∈ members ↔ id ∈ t.types.map (fun o => o.identifier) ∨ id ∈ t.unresolved) ∧
    (t.types.map fun o => o.identifier).Disjoint t.unresolved ∧
    t.types.length + t.unresolved.length = t.members.length ∧
    (∀ o ∈ t.types, now.get? o.identifier = some o) ∧
    ∀ o, o ∈ u.types ↔
      o ∈ t.types ∨ o.identifier ∈ t.unresolved ∧ now.get? o.identifier = some o := by
  intro types now t u
  have htypes : types.Reachable := ⟨calls, rfl⟩
  have hnow : now.Reachable := ⟨calls ++ later, rfl⟩
  have hperm : (t.types.map (fun o => o.identifier) ++ t.unresolved).Perm t.members :=
    perm_members_resolve htypes
  have hsince : ∀ id o, types.get? id = some o → now.get? id = some o :=
    fun _ _ => Ledger.get?_after_append later
  have hown : ∀ o, o ∈ t.types ↔ o.identifier ∈ members ∧ types.get? o.identifier = some o :=
    fun _ => mem_types_resolve_iff_own htypes
  refine ⟨fun _ => resolve_eq_of_mem_iff, pairwise_lt_types_resolve htypes, hown,
    pairwise_lt_members_resolve, fun _ => mem_members_resolve, ?_, ?_, ?_, ?_,
    fun _ => mem_types_resolve_of_later htypes hnow hsince⟩
  · -- every member
    intro id
    rw [← List.mem_append, hperm.mem_iff]
    exact mem_members_resolve.symm
  · -- no member twice
    have hnodup := hperm.nodup_iff.2 nodup_members_resolve
    exact (List.nodup_append'.1 hnodup).2.2
  · -- the numbers
    rw [← hperm.length_eq, List.length_append, List.length_map]
  · -- the types after further calls
    intro o ho
    exact hsince _ _ ((hown o).1 ho).2

end RegistryTables.Tag
