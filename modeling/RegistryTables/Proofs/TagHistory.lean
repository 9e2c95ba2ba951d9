import RegistryTables.Session
import RegistryTables.Proofs.RegistryHistory
import RegistryTables.Proofs.SortedLists

/-
  What an index of tags holds after any attempts to register tags in it.

  A tag is resolved at one time and registered at another, and the types it has are
  those that were registered when it was resolved. An attempt under a name that is
  taken fails and changes nothing.

  What is proved:
    1. `TagIndex.InStep.offer` — an attempt, successful or not, leaves the tags of
       every identifier at exactly the registered tags that have a type of it.
    2. `accepted_iff` — an attempt succeeds exactly if it is the first of its name.
    3. `tags_after_attempts` — what the next attempt gives and what the index answers,
       in terms of the attempts alone.
-/
namespace RegistryTables

namespace Tag

def hasType (t : Tag) (id : Identifier) : Bool := t.types.any (fun o => o.identifier = id)

theorem hasType_iff {t : Tag} {id : Identifier} :
    t.hasType id = true ↔ id ∈ t.types.map (fun o => o.identifier) := by
  simp [hasType]

/-- A tag has a type of exactly those members that were registered when it was resolved. -/
theorem hasType_resolve {types : Registry} (h : types.Reachable) {name : String}
    {members : List Identifier} {id : Identifier} :
    (resolve name members types).hasType id = true ↔
      id ∈ members ∧ types.contains id = true := by
  rw [hasType_iff, Registry.contains, Index.contains_iff, Index.mem_keys_iff, List.mem_map]
  simp only [resolve, List.mem_filterMap, mem_distinct]
  constructor
  · intro hx
    obtain ⟨o, ⟨m, hm, ho⟩, rfl⟩ := hx
    rw [h.identifier_eq ho]
    exact ⟨hm, o, ho⟩
  · intro hx
    obtain ⟨hm, o, ho⟩ := hx
    exact ⟨o, ⟨id, hm, ho⟩, h.identifier_eq ho⟩

theorem not_hasType_of_unresolved {t : Tag} {id : Identifier} (h : id ∈ t.unresolved) :
    t.hasType id = false := by
  simpa [hasType] using (List.mem_filter.1 h).2

end Tag

namespace TagIndex

/-! ## One attempt -/

/-- The index after an attempt to register the tag, successful or not. -/
def offer (r : TagIndex) (t : Tag) : TagIndex := (r.register t).1

theorem register_of_taken {r : TagIndex} {t : Tag} (h : t.name ∈ r.byName.keys) :
    r.register t = (r, .error ⟨t.name⟩) := by
  rw [register, if_pos (Index.contains_iff.2 h)]

theorem register_of_free {r : TagIndex} {t : Tag} (h : t.name ∉ r.byName.keys) :
    r.register t =
      ({ byName := r.byName.insertIfNew t.name t
         byMember := t.types.foldl (addMember t) r.byMember }, .ok t) := by
  rw [register, if_neg (fun hc => h (Index.contains_iff.1 hc))]

/-- An attempt fails exactly if the name is taken, and the error names it. -/
theorem register_eq_error_iff {r : TagIndex} {t : Tag} {e : DuplicateTag} :
    (r.register t).2 = .error e ↔ t.name ∈ r.byName.keys ∧ e = ⟨t.name⟩ := by
  by_cases h : t.name ∈ r.byName.keys
  · rw [register_of_taken h, Except.error.injEq, and_iff_right h]
    exact eq_comm
  · rw [register_of_free h]
    simp [h]

theorem register_eq_ok_iff {r : TagIndex} {t u : Tag} :
    (r.register t).2 = .ok u ↔ t.name ∉ r.byName.keys ∧ u = t := by
  by_cases h : t.name ∈ r.byName.keys
  · rw [register_of_taken h]
    simp [h]
  · rw [register_of_free h, Except.ok.injEq, and_iff_right h]
    exact eq_comm

theorem offer_of_taken {r : TagIndex} {t : Tag} (h : t.name ∈ r.byName.keys) : r.offer t = r := by
  rw [offer, register_of_taken h]

theorem offer_byName (r : TagIndex) (t : Tag) :
    (r.offer t).byName = r.byName.insertIfNew t.name t := by
  by_cases h : t.name ∈ r.byName.keys
  · rw [offer_of_taken h, Index.insertIfNew_of_mem h]
  · rw [offer, register_of_free h]

/-! ## The tags of an identifier -/

theorem addTo_addTo (tags : List Tag) (t : Tag) : addTo (addTo tags t) t = addTo tags t := by
  have hin : (addTo tags t).any (fun u => u.same t) = true := by
    rw [addTo]
    split
    · assumption
    · simp [Tag.same]
  exact if_pos hin

/-- Adding a tag under some objects adds it to the tags of their identifiers and leaves
the tags of the others alone, however often an identifier occurs. -/
theorem get?_foldl_addMember (t : Tag) (id : Identifier) :
    ∀ (os : List Object) (m : Index Identifier (List Tag)),
    ((os.foldl (addMember t) m).get? id).getD [] =
      if id ∈ os.map (fun o => o.identifier) then addTo ((m.get? id).getD []) t
      else (m.get? id).getD []
  | [], _ => rfl
  | o :: rest, m => by
    rw [List.foldl_cons, get?_foldl_addMember t id rest, addMember, Index.get?_insert,
      List.map_cons]
    -- An identifier that occurs again finds the tag among its tags already.
    by_cases ho : id = o.identifier
    · subst ho
      simp [addTo_addTo]
    · simp [ho]

theorem mem_keys_foldl_addMember (t : Tag) (id : Identifier) :
    ∀ (os : List Object) (m : Index Identifier (List Tag)),
    id ∈ (os.foldl (addMember t) m).keys ↔ id ∈ os.map (fun o => o.identifier) ∨ id ∈ m.keys
  | [], _ => by simp
  | o :: rest, m => by
    rw [List.foldl_cons, mem_keys_foldl_addMember t id rest, addMember, Index.mem_keys_insert,
      List.map_cons, List.mem_cons, or_left_comm, or_assoc]

/-- Every tag stands under its own name, and the tags of an identifier are the registered
tags that have a type of it, in the order of their registration. -/
structure InStep (r : TagIndex) : Prop where
  named : ∀ e ∈ r.byName.entries, e.2.name = e.1
  tagsOf : ∀ id, r.tagsOf id = r.byName.values.filter (fun t => t.hasType id)
  keys : ∀ id, id ∈ r.byMember.keys ↔ ∃ t ∈ r.byName.values, t.hasType id = true

theorem inStep_empty : empty.InStep :=
  ⟨fun _ h => absurd h List.not_mem_nil, fun _ => rfl, fun _ =>
    ⟨fun h => absurd h List.not_mem_nil, fun ⟨_, h, _⟩ => absurd h List.not_mem_nil⟩⟩

variable {r : TagIndex}

/-- The registered tags are what lookups of their own names find. -/
theorem InStep.mem_values_iff (h : r.InStep) {t : Tag} :
    t ∈ r.byName.values ↔ r.get? t.name = some t := by
  rw [get?, Index.get?_eq_some_iff, Index.values, List.mem_map]
  constructor
  · intro hx
    obtain ⟨e, he, rfl⟩ := hx
    rw [h.named e he]
    exact he
  · intro he
    exact ⟨_, he, rfl⟩

theorem InStep.names_eq (h : r.InStep) : r.byName.values.map Tag.name = r.byName.keys := by
  rw [Index.values, Index.keys, List.map_map]
  exact List.map_congr_left h.named

theorem InStep.get?_of_mem_tagsOf (h : r.InStep) {id : Identifier} {t : Tag}
    (ht : t ∈ r.tagsOf id) : r.get? t.name = some t := by
  rw [h.tagsOf] at ht
  exact h.mem_values_iff.1 (List.mem_filter.1 ht).1

theorem InStep.hasType_of_mem_tagsOf (h : r.InStep) {id : Identifier} {t : Tag}
    (ht : t ∈ r.tagsOf id) : t.hasType id = true := by
  rw [h.tagsOf] at ht
  exact (List.mem_filter.1 ht).2

theorem InStep.nodup_tagsOf (h : r.InStep) (id : Identifier) :
    ((r.tagsOf id).map Tag.name).Nodup := by
  have hnames : (r.byName.values.map Tag.name).Nodup := by
    rw [h.names_eq]
    exact r.byName.keys_nodup
  rw [h.tagsOf]
  exact hnames.sublist (List.filter_sublist.map Tag.name)

theorem InStep.exists_mem_tagsOf (h : r.InStep) {id : Identifier} (hid : id ∈ r.byMember.keys) :
    ∃ t, t ∈ r.tagsOf id := by
  obtain ⟨t, ht, htype⟩ := (h.keys id).1 hid
  refine ⟨t, ?_⟩
  rw [h.tagsOf]
  exact List.mem_filter.2 ⟨ht, htype⟩

theorem InStep.offer (h : r.InStep) (t : Tag) : (r.offer t).InStep := by
  by_cases htaken : t.name ∈ r.byName.keys
  · rw [offer_of_taken htaken]
    exact h
  · have hentries : (r.offer t).byName.entries = r.byName.entries ++ [(t.name, t)] := by
      rw [offer_byName, Index.entries_insertIfNew htaken]
    have hvalues : (r.offer t).byName.values = r.byName.values ++ [t] := by
      rw [Index.values, hentries, List.map_append]
      rfl
    have hmember : (r.offer t).byMember = t.types.foldl (addMember t) r.byMember := by
      rw [TagIndex.offer, register_of_free htaken]
    -- The name is free, so no tag of any identifier is taken for this one.
    have hadd : ∀ id, addTo (r.tagsOf id) t = r.tagsOf id ++ [t] := by
      intro id
      rw [addTo, if_neg]
      intro hany
      obtain ⟨u, hu, hsame⟩ := List.any_eq_true.1 hany
      rw [h.tagsOf id] at hu
      have hname : u.name = t.name := by simpa [Tag.same] using hsame
      apply htaken
      rw [← hname, ← h.names_eq]
      exact List.mem_map.2 ⟨u, (List.mem_filter.1 hu).1, rfl⟩
    refine ⟨?_, ?_, ?_⟩
    · intro e he
      rw [hentries] at he
      rcases List.mem_append.1 he with he | he
      · exact h.named e he
      · rw [List.mem_singleton.1 he]
    · intro id
      rw [TagIndex.tagsOf, hmember, get?_foldl_addMember, hvalues, List.filter_append,
        ← h.tagsOf id]
      cases hid : t.hasType id with
      | true =>
        rw [if_pos (Tag.hasType_iff.1 hid), List.filter_singleton, hid, cond_true]
        exact hadd id
      | false =>
        have hno : id ∉ t.types.map (fun o => o.identifier) := by simp [← Tag.hasType_iff, hid]
        rw [if_neg hno, List.filter_singleton, hid, cond_false, List.append_nil]
        rfl
    · intro id
      rw [hmember, mem_keys_foldl_addMember, h.keys id, hvalues, ← Tag.hasType_iff]
      simp only [List.mem_append, List.mem_singleton, or_and_right, exists_or, exists_eq_left]
      exact or_comm

end TagIndex

/-- A tag on its way into an index: its name and its members, and the registry that it
was resolved against, as it was then. -/
structure Resolution where
  name : String
  members : List Identifier
  types : Registry
  reachable : types.Reachable

namespace Resolution

def tag (a : Resolution) : Tag := Tag.resolve a.name a.members a.types

/-- The identifier was a registered member when the tag was resolved. -/
def Found (a : Resolution) (id : Identifier) : Prop :=
  id ∈ a.members ∧ a.types.contains id = true

theorem hasType_iff {a : Resolution} {id : Identifier} : a.tag.hasType id = true ↔ a.Found id :=
  Tag.hasType_resolve a.reachable

end Resolution

namespace TagIndex

/-! ## Any number of attempts -/

/-- The index after attempts on a new one, successful or not. -/
def after (attempts : List Resolution) : TagIndex :=
  attempts.foldl (fun r a => r.offer a.tag) empty

/-- The attempt is one of these, and it succeeded. -/
def Accepted (attempts : List Resolution) (a : Resolution) : Prop :=
  ∃ before later t, attempts = before ++ a :: later ∧ ((after before).register a.tag).2 = .ok t

theorem after_append_singleton (attempts : List Resolution) (a : Resolution) :
    after (attempts ++ [a]) = (after attempts).offer a.tag := by
  rw [after, List.foldl_append]
  rfl

theorem inStep_after (attempts : List Resolution) : (after attempts).InStep := by
  induction attempts using List.reverseRecOn with
  | nil => exact inStep_empty
  | append_singleton attempts a ih =>
    rw [after_append_singleton]
    exact ih.offer a.tag

theorem firstOf_after (attempts : List Resolution) :
    (after attempts).byName.FirstOf Tag.name (attempts.map Resolution.tag) := by
  induction attempts using List.reverseRecOn with
  | nil => exact Index.firstOf_empty _
  | append_singleton attempts a ih =>
    rw [after_append_singleton, offer_byName, List.map_append]
    exact ih.insertIfNew a.tag

theorem get?_after (attempts : List Resolution) (n : String) :
    (after attempts).get? n = (attempts.find? (fun a => a.name = n)).map Resolution.tag := by
  rw [get?, firstOf_after, List.find?_map]
  rfl

theorem mem_keys_after {attempts : List Resolution} {n : String} :
    n ∈ (after attempts).byName.keys ↔ n ∈ attempts.map Resolution.name := by
  rw [(firstOf_after attempts).mem_keys, List.map_map]
  rfl

/-- An attempt succeeds exactly if it is the first of its name. -/
theorem accepted_iff {attempts : List Resolution} {a : Resolution} :
    Accepted attempts a ↔ attempts.find? (fun b => b.name = a.name) = some a := by
  rw [List.find?_eq_some_iff_append]
  constructor
  · intro hx
    obtain ⟨before, later, t, happ, hreg⟩ := hx
    refine ⟨by simp, before, later, happ, ?_⟩
    intro b hb
    have hname : b.name ≠ a.name := fun he =>
      (register_eq_ok_iff.1 hreg).1 (mem_keys_after.2 (List.mem_map.2 ⟨b, hb, he⟩))
    simp [hname]
  · intro hx
    obtain ⟨-, before, later, happ, hbefore⟩ := hx
    have hfree : a.tag.name ∉ (after before).byName.keys := by
      intro htaken
      obtain ⟨b, hb, hname⟩ := List.mem_map.1 (mem_keys_after.1 htaken)
      have hne := hbefore b hb
      simp only [Bool.not_eq_true', decide_eq_false_iff_not] at hne
      exact hne hname
    exact ⟨before, later, _, happ, register_eq_ok_iff.2 ⟨hfree, rfl⟩⟩

/-- The tags of an identifier are those of the accepted attempts that found it. -/
theorem mem_tagsOf_after {attempts : List Resolution} {id : Identifier} {t : Tag} :
    t ∈ (after attempts).tagsOf id ↔
      ∃ a, Accepted attempts a ∧ a.tag = t ∧ a.Found id := by
  have hstep := inStep_after attempts
  rw [hstep.tagsOf, List.mem_filter, hstep.mem_values_iff, get?_after]
  -- What a tag's own name leads to is the tag of the accepted attempt under the name.
  constructor
  · intro hx
    obtain ⟨hget, htype⟩ := hx
    obtain ⟨a, ha, rfl⟩ := Option.map_eq_some_iff.1 hget
    exact ⟨a, accepted_iff.2 ha, rfl, Resolution.hasType_iff.1 htype⟩
  · intro hx
    obtain ⟨a, ha, rfl, hfound⟩ := hx
    exact ⟨Option.map_eq_some_iff.2 ⟨a, accepted_iff.1 ha, rfl⟩, Resolution.hasType_iff.2 hfound⟩

end TagIndex

open TagIndex in
/-- After any attempts on a new index, the next one fails exactly if a tag of its name is
registered; the error names it, and nothing changes. A name leads to the first tag
offered under it, and the size counts the different names. The tags of an identifier are
those of the accepted attempts that found it when they were resolved: each is what its
name leads to, no two bear one name, and an identifier has no tag for which it dangles.
Tags are the same here if their contents are. -/
theorem tags_after_attempts (attempts : List Resolution) (a : Resolution) :
    let r := after attempts
    let next := (r.register a.tag).1
    let result := (r.register a.tag).2
    ((∃ e, result = .error e) ↔ ∃ t, r.get? a.name = some t) ∧
    (∀ e, result = .error e →
      e = ⟨a.name⟩ ∧ next = r ∧
      ∀ (s : Session) (d : Domain), s.tags.get d = r →
        s.registerTag d a.tag = (s, .duplicateTag e)) ∧
    (∀ t, result = .ok t → t = a.tag ∧ next.get? a.name = some t) ∧
    after (attempts ++ [a]) = next ∧
    (∀ n, r.get? n = (attempts.find? (fun b => b.name = n)).map Resolution.tag) ∧
    r.size = (attempts.map Resolution.name).toFinset.card ∧
    (∀ id t, t ∈ r.tagsOf id ↔ ∃ b, Accepted attempts b ∧ b.tag = t ∧ b.Found id) ∧
    (∀ id, ∀ t ∈ r.tagsOf id, r.get? t.name = some t) ∧
    (∀ id, ((r.tagsOf id).map Tag.name).Nodup) ∧
    (∀ t, ∀ id ∈ t.unresolved, t ∉ r.tagsOf id) ∧
    ∀ id ∈ r.byMember.keys, ∃ t, t ∈ r.tagsOf id := by
  intro r next result
  have hstep : r.InStep := inStep_after attempts
  refine ⟨?_, ?_, ?_, after_append_singleton attempts a, get?_after attempts, ?_,
    fun _ _ => mem_tagsOf_after, fun _ _ => hstep.get?_of_mem_tagsOf, hstep.nodup_tagsOf, ?_,
    fun _ => hstep.exists_mem_tagsOf⟩
  · -- whether the attempt fails
    show (∃ e, (r.register a.tag).2 = .error e) ↔ ∃ t, r.byName.get? a.tag.name = some t
    rw [← Index.mem_keys_iff]
    constructor
    · intro hx
      obtain ⟨e, he⟩ := hx
      exact (register_eq_error_iff.1 he).1
    · intro htaken
      exact ⟨_, register_eq_error_iff.2 ⟨htaken, rfl⟩⟩
  · -- a failure
    intro e he
    obtain ⟨htaken, rfl⟩ := register_eq_error_iff.1 he
    refine ⟨rfl, offer_of_taken htaken, ?_⟩
    intro s d hs
    have hregister : (s.tags.get d).register a.tag = (s.tags.get d, .error ⟨a.tag.name⟩) := by
      rw [hs]
      exact register_of_taken htaken
    rw [Session.registerTag, hregister]
    simp only [PerDomain.set_get, Session.Answer.ofRegistration]
  · -- a success
    intro t ht
    obtain ⟨hfree, rfl⟩ := register_eq_ok_iff.1 ht
    refine ⟨rfl, ?_⟩
    show (r.offer a.tag).byName.get? a.name = some a.tag
    rw [offer_byName, Index.get?_insertIfNew]
    exact if_pos ⟨rfl, hfree⟩
  · -- the size
    rw [size, (firstOf_after attempts).size_eq, List.map_map]
    rfl
  · -- dangling members
    intro t id hid ht
    have htype := hstep.hasType_of_mem_tagsOf ht
    rw [Tag.not_hasType_of_unresolved hid] at htype
    cases htype

end RegistryTables
