import RegistryTables.Proofs.RepeatedKeys
import RegistryTables.Proofs.StableOrder
import RegistryTables.Proofs.TagBuild
import RegistryTables.Proofs.TagResolution

/-
  Tags built from any list of names and members.

  A build sorts the list by name and registers one tag after the other, up to the first
  name that is taken. Only the tags before can take a name, so the build fails exactly if
  a name is repeated, and the order of the names settles with which; registered in another
  order, the tags may fail with another name. Where no name is repeated, every tag takes a
  place of its own, and no order matters: not that of the list, and not that in which the
  tags are registered.

  What is proved:
    1. `registerEach_of_nodup`, `registerEach_eq_error_iff` — registering one by one
       succeeds on different names, and stops at the first that is repeated;
       `exists_order_of_error_iff` — that is any repeated name, in some order.
    2. `least_of_build` — a build fails with the least repeated name.
    3. `hasTags_offerAll`, `InStep.alike` — an index of different names has one tag for
       each of them, and answers alike in whatever order it was filled.
    4. `build_in_any_order` — all of it, for builds and for registering one by one;
       `registerEach_stops_elsewhere` — the two may fail with different names.
-/
namespace RegistryTables.TagIndex

variable {types : Registry} {source order : List (String × List Identifier)}

/-! ## One by one -/

/-- The index with the tag registered, or why it was not. -/
def extended (r : TagIndex) (t : Tag) : Except DuplicateTag TagIndex :=
  match r.register t with
  | (r, .ok _) => .ok r
  | (_, .error e) => .error e

/-- Resolves and registers the tags one by one, in the order given, up to the first name that
is taken. -/
def registerEach (types : Registry) (source : List (String × List Identifier)) :
    Except DuplicateTag TagIndex :=
  source.foldlM (fun r e => r.extended (Tag.resolve e.1 e.2 types)) empty

theorem value_registerAll (types : Registry) : ∀ (source : List (String × List Identifier))
    (r : TagIndex), (registerAll types r source).value =
      source.foldlM (fun r e => r.extended (Tag.resolve e.1 e.2 types)) r
  | [], _ => rfl
  | (name, members) :: rest, r => by
    rw [registerAll, List.foldlM_cons, extended]
    obtain ⟨next, result⟩ := r.register (Tag.resolve name members types)
    cases result with
    | error e => rfl
    | ok t => exact value_registerAll types rest next

theorem value_build (types : Registry) (source : List (String × List Identifier)) :
    (build source types).value = registerEach types (sortOn Prod.fst source) :=
  value_registerAll types _ empty

theorem registerEach_of_nodup (types : Registry) (h : (source.map Prod.fst).Nodup) :
    registerEach types source = .ok (empty.offerAll types source) := by
  rw [registerEach, ← value_registerAll]
  exact registerAll_of_free types source empty h (fun _ _ hm => absurd hm List.not_mem_nil)

theorem mem_keys_offerAll_empty (types : Registry) {n : String} :
    n ∈ (empty.offerAll types source).byName.keys ↔ n ∈ source.map Prod.fst := by
  rw [mem_keys_offerAll]
  exact or_iff_left List.not_mem_nil

theorem registerEach_of_firstRepeat (types : Registry) {a b : String × List Identifier}
    (h : FirstRepeat Prod.fst source a b) : registerEach types source = .error ⟨b.1⟩ := by
  obtain ⟨before, later, rfl, hnodup, ha, hname⟩ := h
  have hbefore := registerEach_of_nodup types hnodup
  have htaken : b.1 ∈ (empty.offerAll types before).byName.keys :=
    (mem_keys_offerAll_empty types).2 (hname ▸ List.mem_map_of_mem ha)
  have hb : (empty.offerAll types before).extended (Tag.resolve b.1 b.2 types) = .error ⟨b.1⟩ := by
    rw [extended, register_of_taken htaken]
    rfl
  rw [registerEach] at hbefore ⊢
  rw [List.foldlM_append, hbefore]
  show (b :: later).foldlM (fun r e => r.extended (Tag.resolve e.1 e.2 types))
    (empty.offerAll types before) = _
  rw [List.foldlM_cons, hb]
  rfl

/-- Registering one by one fails exactly if a name is repeated. -/
theorem exists_error_registerEach_iff :
    (∃ e, registerEach types source = .error e) ↔ ¬(source.map Prod.fst).Nodup := by
  constructor
  · rintro ⟨e, he⟩ hnodup
    rw [registerEach_of_nodup types hnodup] at he
    cases he
  · intro hrepeated
    obtain ⟨a, b, hrepeat⟩ := exists_firstRepeat_iff.2 hrepeated
    exact ⟨_, registerEach_of_firstRepeat types hrepeat⟩

/-- It fails at the first tag whose name is that of a tag before it. -/
theorem registerEach_eq_error_iff {e : DuplicateTag} :
    registerEach types source = .error e ↔
      ∃ a b, FirstRepeat Prod.fst source a b ∧ b.1 = e.name := by
  constructor
  · intro he
    obtain ⟨a, b, hrepeat⟩ := exists_firstRepeat_iff.2 (exists_error_registerEach_iff.1 ⟨e, he⟩)
    rw [registerEach_of_firstRepeat types hrepeat] at he
    exact ⟨a, b, hrepeat, congrArg DuplicateTag.name (Except.error.inj he)⟩
  · intro hx
    obtain ⟨a, b, hrepeat, hname⟩ := hx
    rw [registerEach_of_firstRepeat types hrepeat, hname]

/-- Over all orders, it fails with every name that is repeated. -/
theorem exists_order_of_error_iff {n : String} :
    (∃ order, order.Perm source ∧ registerEach types order = .error ⟨n⟩) ↔
      1 < (source.map Prod.fst).count n := by
  constructor
  · intro hx
    obtain ⟨order, horder, he⟩ := hx
    obtain ⟨a, b, hrepeat, rfl⟩ := registerEach_eq_error_iff.1 he
    rw [← (horder.map Prod.fst).count_eq]
    exact hrepeat.one_lt_count
  · intro hn
    obtain ⟨order, a, b, horder, hrepeat, hname⟩ := exists_perm_firstRepeat hn
    exact ⟨order, horder, registerEach_eq_error_iff.2 ⟨a, b, hrepeat, hname⟩⟩

/-! ## Builds -/

theorem nodup_names_sorted_iff :
    ((sortOn Prod.fst source).map Prod.fst).Nodup ↔ (source.map Prod.fst).Nodup :=
  ((sortOn_perm Prod.fst source).map Prod.fst).nodup_iff

theorem exists_error_build_iff :
    (∃ e, (build source types).value = .error e) ↔ ¬(source.map Prod.fst).Nodup := by
  rw [value_build, exists_error_registerEach_iff, nodup_names_sorted_iff]

theorem build_of_nodup (types : Registry) (h : (source.map Prod.fst).Nodup) :
    build source types = ⟨.ok (empty.offerAll types (sortOn Prod.fst source)),
      (sortOn Prod.fst source).flatMap fun e => reportDangling (Tag.resolve e.1 e.2 types)⟩ :=
  registerAll_eq_of_free types _ empty (nodup_names_sorted_iff.2 h)
    (fun _ _ hm => absurd hm List.not_mem_nil)

theorem build_eq_ok_iff {r : TagIndex} :
    (build source types).value = .ok r ↔
      (source.map Prod.fst).Nodup ∧ r = empty.offerAll types (sortOn Prod.fst source) := by
  constructor
  · intro hr
    have hnodup : (source.map Prod.fst).Nodup := by
      by_contra hrepeated
      obtain ⟨e, he⟩ := exists_error_build_iff.2 hrepeated
      cases he.symm.trans hr
    rw [build_of_nodup types hnodup] at hr
    exact ⟨hnodup, (Except.ok.inj hr).symm⟩
  · rintro ⟨hnodup, rfl⟩
    rw [build_of_nodup types hnodup]

/-- A build fails with the least name that is repeated. -/
theorem least_of_build {e : DuplicateTag} (h : (build source types).value = .error e) :
    1 < (source.map Prod.fst).count e.name ∧
      ∀ n, 1 < (source.map Prod.fst).count n → e.name ≤ n := by
  obtain ⟨a, b, hrepeat⟩ :=
    exists_firstRepeat_iff.2 (exists_error_registerEach_iff.1 ⟨e, (value_build types source) ▸ h⟩)
  rw [value_build, registerEach_of_firstRepeat types hrepeat] at h
  obtain rfl := Except.error.inj h
  have hcount : ∀ n, (source.map Prod.fst).count n =
      ((sortOn Prod.fst source).map Prod.fst).count n :=
    fun n => ((sortOn_perm Prod.fst source).symm.map Prod.fst).count_eq n
  simp only [hcount]
  exact ⟨hrepeat.one_lt_count, fun n hn => hrepeat.key_le (pairwise_sortOn Prod.fst source) hn⟩

/-- A build gives the same index, or the same failure, for every order of the list. -/
theorem value_build_eq_of_perm (types : Registry) (h : order.Perm source) :
    (build order types).value = (build source types).value := by
  have hnames : (order.map Prod.fst).Perm (source.map Prod.fst) := h.map Prod.fst
  by_cases hnodup : (source.map Prod.fst).Nodup
  · rw [value_build, value_build, sortOn_eq_of_perm h (hnames.nodup_iff.2 hnodup)]
  · obtain ⟨e, he⟩ := exists_error_build_iff.2 hnodup
    obtain ⟨f, hf⟩ := exists_error_build_iff.2 (mt hnames.nodup_iff.1 hnodup)
    obtain ⟨herepeated, heleast⟩ := least_of_build he
    obtain ⟨hfrepeated, hfleast⟩ := least_of_build hf
    rw [hnames.count_eq] at hfrepeated
    rw [← hnames.count_eq] at herepeated
    -- Both names are the least of those that are repeated.
    have hname : f.name = e.name :=
      Std.le_antisymm (hfleast _ herepeated) (heleast _ hfrepeated)
    have hsame : f = e := congrArg DuplicateTag.mk hname
    rw [he, hf, hsame]

/-! ## An index of different names -/

/-- The index has one tag for each entry of the source, resolved against the registry, and no
other. -/
structure HasTags (r : TagIndex) (types : Registry) (source : List (String × List Identifier)) :
    Prop where
  size : r.size = source.length
  get? : ∀ n t, r.get? n = some t ↔
    ∃ members, (n, members) ∈ source ∧ Tag.resolve n members types = t
  tagsOf : ∀ id t, t ∈ r.tagsOf id ↔ ∃ n members, (n, members) ∈ source ∧
    Tag.resolve n members types = t ∧ id ∈ members ∧ types.contains id = true
  nodup_tagsOf : ∀ id, ((r.tagsOf id).map Tag.name).Nodup

/-- The indexes answer alike, but for the order of the tags of an identifier. -/
structure Alike (r q : TagIndex) : Prop where
  get? : ∀ n, r.get? n = q.get? n
  tagsOf : ∀ id, (r.tagsOf id).Perm (q.tagsOf id)
  size : r.size = q.size
  isEmpty : r.isEmpty = q.isEmpty
  sortedTags : r.sortedTags = q.sortedTags

theorem InStep.alike {r q : TagIndex} (hr : r.InStep) (hq : q.InStep)
    (h : r.byName.entries.Perm q.byName.entries) : r.Alike q := by
  refine ⟨Index.get?_eq_of_perm h, ?_, h.length_eq, h.isEmpty_eq, ?_⟩
  · intro id
    rw [hr.tagsOf, hq.tagsOf]
    exact (h.map Prod.snd).filter _
  · exact congrArg (List.map Prod.snd) (sortOn_eq_of_perm h r.byName.keys_nodup)

theorem entries_offerAll_empty (types : Registry) (h : (source.map Prod.fst).Nodup) :
    (empty.offerAll types source).byName.entries =
      source.map fun e => (e.1, Tag.resolve e.1 e.2 types) :=
  entries_offerAll types source empty h (fun _ _ hm => absurd hm List.not_mem_nil)

theorem hasTags_offerAll (hreach : types.Reachable) (h : (source.map Prod.fst).Nodup) :
    (empty.offerAll types source).HasTags types source := by
  have hentries := entries_offerAll_empty types h
  have hstep := inStep_offerAll hreach source
  have hget : ∀ n t, (empty.offerAll types source).get? n = some t ↔
      ∃ members, (n, members) ∈ source ∧ Tag.resolve n members types = t := by
    intro n t
    rw [TagIndex.get?, Index.get?_eq_some_iff, hentries, List.mem_map]
    constructor
    · rintro ⟨e, he, heq⟩
      obtain ⟨rfl, rfl⟩ := Prod.mk.inj heq
      exact ⟨e.2, he, rfl⟩
    · rintro ⟨members, hmem, rfl⟩
      exact ⟨(n, members), hmem, rfl⟩
  refine ⟨?_, hget, ?_, hstep.nodup_tagsOf⟩
  · rw [TagIndex.size, Index.size, hentries, List.length_map]
  · intro id t
    rw [hstep.tagsOf, List.mem_filter, hstep.mem_values_iff, hget]
    constructor
    · rintro ⟨⟨members, hmem, htag⟩, htype⟩
      rw [← htag, Tag.hasType_resolve hreach] at htype
      exact ⟨_, members, hmem, htag, htype⟩
    · rintro ⟨n, members, hmem, rfl, htype⟩
      exact ⟨⟨members, hmem, rfl⟩, (Tag.hasType_resolve hreach).2 htype⟩

theorem HasTags.of_perm {r : TagIndex} (h : r.HasTags types order) (hperm : order.Perm source) :
    r.HasTags types source := by
  refine ⟨h.size.trans hperm.length_eq, ?_, ?_, h.nodup_tagsOf⟩
  · intro n t
    simp only [h.get?, hperm.mem_iff]
  · intro id t
    simp only [h.tagsOf, hperm.mem_iff]

theorem sortedTags_offerAll_sorted (types : Registry) (h : (source.map Prod.fst).Nodup) :
    (empty.offerAll types (sortOn Prod.fst source)).sortedTags =
      (sortOn Prod.fst source).map fun e => Tag.resolve e.1 e.2 types := by
  have hasc := pairwise_lt_sortOn h
  rw [sortedTags, Index.sorted, entries_offerAll_empty types (nodup_names_sorted_iff.2 h),
    ← map_sortOn, List.map_map]
  have hsorted : sortOn Prod.fst (sortOn Prod.fst source) = sortOn Prod.fst source :=
    sortOn_eq_of_perm (sortOn_perm Prod.fst source) (nodup_names_sorted_iff.2 h)
  exact congrArg (List.map _) hsorted

theorem reportDangling_resolve (hreach : types.Reachable) (name : String)
    (members : List Identifier) :
    reportDangling (Tag.resolve name members types) =
      if 0 < Tag.missing types members then [.danglingMembers name (Tag.missing types members)]
      else [] := by
  have hlength : (Tag.resolve name members types).unresolved.length = Tag.missing types members :=
    Tag.length_unresolved_resolve hreach
  rw [← hlength, reportDangling]
  cases (Tag.resolve name members types).unresolved with
  | nil => rfl
  | cons id rest => rfl

theorem flatMap_reportDangling (hreach : types.Reachable) :
    ∀ source : List (String × List Identifier),
    source.flatMap (fun e => reportDangling (Tag.resolve e.1 e.2 types)) =
      (source.filter (fun e => 0 < Tag.missing types e.2)).map
        fun e => .danglingMembers e.1 (Tag.missing types e.2)
  | [] => rfl
  | e :: rest => by
    rw [List.flatMap_cons, flatMap_reportDangling hreach rest, reportDangling_resolve hreach]
    by_cases hmissing : 0 < Tag.missing types e.2
    · rw [if_pos hmissing, List.filter_cons_of_pos (by simpa using hmissing), List.map_cons]
      rfl
    · rw [if_neg hmissing, List.filter_cons_of_neg (by simpa using hmissing), List.nil_append]

theorem events_build (hreach : types.Reachable) (h : (source.map Prod.fst).Nodup) :
    (build source types).events =
      ((sortOn Prod.fst source).filter (fun e => 0 < Tag.missing types e.2)).map
        fun e => .danglingMembers e.1 (Tag.missing types e.2) := by
  rw [build_of_nodup types h]
  exact flatMap_reportDangling hreach _

/-- Registering different tags one by one, in any order, fills an index like the one that is
filled in the order of their names. -/
theorem exists_alike_of_perm (hreach : types.Reachable) (h : (source.map Prod.fst).Nodup)
    (hperm : order.Perm source) : ∃ q, registerEach types order = .ok q ∧
      q.Alike (empty.offerAll types (sortOn Prod.fst source)) := by
  have horder : (order.map Prod.fst).Nodup := (hperm.map Prod.fst).nodup_iff.2 h
  have hentries : (order.map fun e => (e.1, Tag.resolve e.1 e.2 types)).Perm
      ((sortOn Prod.fst source).map fun e => (e.1, Tag.resolve e.1 e.2 types)) :=
    (hperm.trans (sortOn_perm Prod.fst source).symm).map _
  refine ⟨_, registerEach_of_nodup types horder,
    (inStep_offerAll hreach order).alike (inStep_offerAll hreach _) ?_⟩
  rw [entries_offerAll_empty types horder,
    entries_offerAll_empty types (nodup_names_sorted_iff.2 h)]
  exact hentries

/-- A build from any list, against the registry after any calls, fails exactly if a name is
repeated, and names the least that is. Otherwise it has one tag for each entry, in the
order of the names, and reports the tags with members that are not registered, in this
order and with the number of these members. The order of the list matters neither to the
index nor to the failure.

Registering the tags one by one, in any order, fails exactly if the build does, and
otherwise fills the index alike. Where it fails, it stops at the first name in its order
that was there before, so each of the repeated names is what it fails with in some order;
the build's is the least of them. -/
theorem build_in_any_order (calls : List Call) (source : List (String × List Identifier)) :
    let types := (Ledger.after calls).registry
    let names := source.map Prod.fst
    let built := build source types
    ((∃ e, built.value = .error e) ↔ ∃ n, 1 < names.count n) ∧
    (∀ e, built.value = .error e →
      1 < names.count e.name ∧ ∀ n, 1 < names.count n → e.name ≤ n) ∧
    (∀ r, built.value = .ok r → r.HasTags types source ∧
      ∃ sorted : List (String × List Identifier),
        sorted.Perm source ∧ sorted.Pairwise (fun a b => a.1 < b.1) ∧
        r.sortedTags = sorted.map (fun e => Tag.resolve e.1 e.2 types) ∧
        built.events = (sorted.filter (fun e => 0 < Tag.missing types e.2)).map
          (fun e => .danglingMembers e.1 (Tag.missing types e.2)) ∧
        ∀ event ∈ built.events, event.level = .debug) ∧
    (∀ order : List (String × List Identifier), order.Perm source →
      (build order types).value = built.value ∧
      ((∃ e, registerEach types order = .error e) ↔ ∃ e, built.value = .error e) ∧
      (∀ e, registerEach types order = .error e ↔
        ∃ a b, FirstRepeat Prod.fst order a b ∧ b.1 = e.name) ∧
      ∀ r, built.value = .ok r → ∃ q, registerEach types order = .ok q ∧ q.Alike r) ∧
    ∀ n, (∃ order, order.Perm source ∧ registerEach types order = .error ⟨n⟩) ↔
      1 < names.count n := by
  intro types names built
  have hreach : types.Reachable := ⟨calls, rfl⟩
  refine ⟨?_, fun _ => least_of_build, ?_, ?_, fun _ => exists_order_of_error_iff⟩
  · -- whether it fails
    refine exists_error_build_iff.trans ?_
    rw [List.nodup_iff_count_le_one]
    simp only [not_forall, not_le]
    rfl
  · -- the tags and the reports
    intro r hr
    obtain ⟨hnodup, rfl⟩ := build_eq_ok_iff.1 hr
    have hevents := events_build hreach hnodup
    refine ⟨(hasTags_offerAll hreach (nodup_names_sorted_iff.2 hnodup)).of_perm
      (sortOn_perm Prod.fst source), _, sortOn_perm Prod.fst source, pairwise_lt_sortOn hnodup,
      sortedTags_offerAll_sorted types hnodup, hevents, ?_⟩
    intro event hevent
    rw [hevents] at hevent
    obtain ⟨e, -, rfl⟩ := List.mem_map.1 hevent
    rfl
  · -- any order
    intro order horder
    have hnames : (order.map Prod.fst).Perm names := horder.map Prod.fst
    refine ⟨value_build_eq_of_perm types horder, ?_, fun _ => registerEach_eq_error_iff, ?_⟩
    · rw [exists_error_registerEach_iff, hnames.nodup_iff]
      exact exists_error_build_iff.symm
    · intro r hr
      obtain ⟨hnodup, rfl⟩ := build_eq_ok_iff.1 hr
      exact exists_alike_of_perm hreach hnodup horder

/-- Two tags of one name, and then two of a lesser one. -/
def twiceEach : List (String × List Identifier) := [("b", []), ("b", []), ("a", []), ("a", [])]

/-- Where several names are repeated, registering one by one may stop at another than the
build does. -/
theorem registerEach_stops_elsewhere :
    (build twiceEach .empty).value = .error ⟨"a"⟩ ∧
    registerEach .empty twiceEach = .error ⟨"b"⟩ ∧
    ¬ ∀ (calls : List Call) (source order : List (String × List Identifier)),
      order.Perm source → ∀ e, (build source (Ledger.after calls).registry).value = .error e →
        registerEach (Ledger.after calls).registry order = .error e := by
  have hbuild : (build twiceEach .empty).value = .error ⟨"a"⟩ := by
    have hfails : ∃ e, (build twiceEach .empty).value = .error e :=
      exists_error_build_iff.2 (by decide)
    obtain ⟨e, he⟩ := hfails
    obtain ⟨hrepeated, hleast⟩ := least_of_build he
    have hname : e.name ∈ ["b", "b", "a", "a"] := List.count_pos_iff.1 (Nat.zero_lt_of_lt hrepeated)
    have hbelow : ∀ n ∈ ["b", "b", "a", "a"], n ≤ "a" → n = "a" := by decide
    have hleastName : e.name = "a" := hbelow e.name hname (hleast "a" (by decide))
    rw [he]
    exact congrArg Except.error (congrArg DuplicateTag.mk hleastName)
  have heach : registerEach .empty twiceEach = .error ⟨"b"⟩ := by
    refine registerEach_eq_error_iff.2
      ⟨("b", []), ("b", []), ⟨[("b", [])], _, rfl, ?_, ?_, rfl⟩, rfl⟩
    · exact List.nodup_singleton _
    · exact List.mem_singleton_self _
  refine ⟨hbuild, heach, ?_⟩
  intro hsame
  have hstop := hsame [] twiceEach twiceEach (.refl _) ⟨"a"⟩ hbuild
  have hname : (⟨"b"⟩ : DuplicateTag) = ⟨"a"⟩ := Except.error.inj (heach.symm.trans hstop)
  exact absurd hname (by decide)

end RegistryTables.TagIndex
