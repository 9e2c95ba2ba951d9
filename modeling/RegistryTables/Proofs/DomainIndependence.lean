import RegistryTables.Session
import RegistryTables.Proofs.RegistryHistory

/-
  What the domains of a session owe each other.

  Blocks owe nothing to items: a session with all steps on items left out has the same
  blocks. Items owe to blocks their shadows and nothing else: a session has the same
  items if every block is registered as an item instead and all other steps on blocks
  are left out.

  What is proved:
    1. `share_step`, `share_step_of_none` — one step carries equal shares of a domain
       over to equal ones, and a step that is left out does not touch the share.
    2. `share_after` — so a whole session and what is left of it for the domain end
       with the same share.
    3. `Types.Shadowed.registerBlock`, `shadowed_after` — every key of the block
       registry is one of the item registry.
    4. `domains_independent` — the answers, the registries and the tags of each domain
       over a whole session.
-/
namespace RegistryTables

namespace Registry

theorem mem_identifiers_register {r : Registry} {e : TypeEntry} {id : Identifier} :
    id ∈ (r.register e).value.1.byIdentifier.keys ↔
      id = e.identifier ∨ id ∈ r.byIdentifier.keys := by
  rw [register, registerObject_indexes]
  exact Index.mem_keys_insertIfNew

theorem mem_legacyIds_register {r : Registry} {e : TypeEntry} {l : LegacyId} :
    l ∈ (r.register e).value.1.byLegacyId.keys ↔ l = e.legacyId ∨ l ∈ r.byLegacyId.keys := by
  rw [register, registerObject_indexes]
  exact Index.mem_keys_insertIfNew

end Registry

namespace Types

/-- Every identifier and every numeric id in use among the blocks is in use among the items. -/
structure Shadowed (t : Types) : Prop where
  identifiers : ∀ id ∈ t.block.byIdentifier.keys, id ∈ t.item.byIdentifier.keys
  legacyIds : ∀ l ∈ t.block.byLegacyId.keys, l ∈ t.item.byLegacyId.keys

theorem shadowed_empty : empty.Shadowed :=
  ⟨fun _ h => absurd h List.not_mem_nil, fun _ h => absurd h List.not_mem_nil⟩

variable {t : Types}

theorem Shadowed.registerItem (h : t.Shadowed) (e : TypeEntry) :
    (t.registerItem e).value.1.Shadowed :=
  ⟨fun id hid => Registry.mem_identifiers_register.2 (Or.inr (h.identifiers id hid)),
    fun l hl => Registry.mem_legacyIds_register.2 (Or.inr (h.legacyIds l hl))⟩

theorem Shadowed.registerBlock (h : t.Shadowed) (e : TypeEntry) :
    (t.registerBlock e).value.1.Shadowed := by
  refine ⟨?_, ?_⟩
  · intro id hid
    have hid := Registry.mem_identifiers_register.1 hid
    exact Registry.mem_identifiers_register.2 (hid.imp_right (h.identifiers id))
  · intro l hl
    have hl := Registry.mem_legacyIds_register.1 hl
    exact Registry.mem_legacyIds_register.2 (hl.imp_right (h.legacyIds l))

end Types

namespace Session

/-- What a session has in one domain. -/
structure Share where
  types : Registry
  tags : TagIndex
  held : List (Option Tag)

def share (s : Session) (d : Domain) : Share := ⟨s.types.get d, s.tags.get d, s.held.get d⟩

/-- The domain that a step is a step on. -/
def Step.domain : Step → Domain
  | .registerBlock _ => .block
  | .registerItem _ => .item
  | .within d _ => d

/-- What is left of a step for one domain: to the items, a block is one more item. -/
def Step.leftFor : Domain → Step → Option Step
  | .block, .registerBlock e => some (.registerBlock e)
  | .block, .registerItem _ => none
  | .item, .registerBlock e => some (.registerItem e)
  | .item, .registerItem e => some (.registerItem e)
  | d, .within e a => if e = d then some (.within e a) else none

def after (s : Session) (steps : List Step) : Session :=
  steps.foldl (fun s a => (s.step a).value.1) s

theorem Step.leftFor_domain (a : Step) : a.leftFor a.domain = some a := by
  cases a with
  | registerBlock e => rfl
  | registerItem e => rfl
  | within d a => cases d <;> rfl

variable {s t : Session} {d : Domain}

theorem share_eq_iff : s.share d = t.share d ↔
    s.types.get d = t.types.get d ∧ s.tags.get d = t.tags.get d ∧ s.held.get d = t.held.get d := by
  rw [share, share, Share.mk.injEq]

/-! ## Steps on tags and lookups -/

theorem share_setTags (h : s.share d = t.share d) (r : TagIndex) :
    { s with tags := s.tags.set d r }.share d = { t with tags := t.tags.set d r }.share d := by
  obtain ⟨htypes, -, hheld⟩ := share_eq_iff.1 h
  exact share_eq_iff.2 ⟨htypes, by simp, hheld⟩

theorem share_setHeld (h : s.share d = t.share d) (gs : List (Option Tag)) :
    { s with held := s.held.set d gs }.share d = { t with held := t.held.set d gs }.share d := by
  obtain ⟨htypes, htags, -⟩ := share_eq_iff.1 h
  exact share_eq_iff.2 ⟨htypes, htags, by simp⟩

theorem share_setTags_ne {e : Domain} (h : e ≠ d) (s : Session) (r : TagIndex) :
    { s with tags := s.tags.set d r }.share e = s.share e :=
  share_eq_iff.2 ⟨rfl, PerDomain.get_set_ne _ _ h, rfl⟩

theorem share_setHeld_ne {e : Domain} (h : e ≠ d) (s : Session) (gs : List (Option Tag)) :
    { s with held := s.held.set d gs }.share e = s.share e :=
  share_eq_iff.2 ⟨rfl, rfl, PerDomain.get_set_ne _ _ h⟩

theorem types_registerTag (s : Session) (d : Domain) (g : Tag) :
    (s.registerTag d g).1.types = s.types := rfl

theorem share_registerTag (h : s.share d = t.share d) (g : Tag) :
    (s.registerTag d g).1.share d = (t.registerTag d g).1.share d ∧
      (s.registerTag d g).2 = (t.registerTag d g).2 := by
  have htags := (share_eq_iff.1 h).2.1
  unfold registerTag
  rw [htags]
  exact ⟨share_setTags h _, rfl⟩

theorem share_registerTag_ne {e : Domain} (h : e ≠ d) (s : Session) (g : Tag) :
    (s.registerTag d g).1.share e = s.share e :=
  share_setTags_ne h s _

theorem types_act (s : Session) (d : Domain) (a : Action) :
    (s.act d a).value.1.types = s.types := by
  cases a with
  | registerTag name members => exact types_registerTag _ _ _
  | registerHeldTag place =>
    simp only [act]
    split
    · rfl
    · exact types_registerTag _ _ _
  | compareHeldTags a b =>
    simp only [act]
    split <;> rfl
  | buildTags source =>
    simp only [act, Logged.value_bind]
    split <;> rfl
  | _ => rfl

/-- An action reads and writes nothing but the share of its domain. -/
theorem share_act (h : s.share d = t.share d) (a : Action) :
    (s.act d a).value.1.share d = (t.act d a).value.1.share d ∧
      (s.act d a).value.2 = (t.act d a).value.2 := by
  obtain ⟨htypes, htags, hheld⟩ := share_eq_iff.1 h
  have hplace : ∀ place, s.heldTag? d place = t.heldTag? d place := by
    intro place
    rw [heldTag?, heldTag?, hheld]
  cases a with
  | registerTag name members =>
    simp only [act, htypes]
    exact share_registerTag h _
  | holdTag name members =>
    simp only [act, htypes, hheld]
    exact ⟨share_setHeld h _, rfl⟩
  | registerHeldTag place =>
    simp only [act, hplace, hheld]
    cases t.heldTag? d place with
    | none => exact ⟨h, rfl⟩
    | some g => exact share_registerTag (share_setHeld h _) g
  | compareHeldTags a b =>
    simp only [act, hplace]
    split
    · exact ⟨h, rfl⟩
    · exact ⟨h, rfl⟩
  | buildTags source =>
    simp only [act, htypes, Logged.value_bind]
    split
    · exact ⟨share_setTags h _, rfl⟩
    · exact ⟨h, rfl⟩
  | ask q => exact ⟨h, by simp only [act, htypes, Logged.value_pure]⟩
  | _ => exact ⟨h, by simp only [act, htags, Logged.value_pure]⟩

theorem share_act_ne {e : Domain} (h : e ≠ d) (s : Session) (a : Action) :
    (s.act d a).value.1.share e = s.share e := by
  cases a with
  | registerTag name members => exact share_registerTag_ne h _ _
  | holdTag name members => exact share_setHeld_ne h _ _
  | registerHeldTag place =>
    simp only [act]
    split
    · rfl
    · exact (share_registerTag_ne h _ _).trans (share_setHeld_ne h _ _)
  | compareHeldTags a b =>
    simp only [act]
    split <;> rfl
  | buildTags source =>
    simp only [act, Logged.value_bind]
    split
    · exact share_setTags_ne h _ _
    · rfl
  | _ => rfl

/-! ## Any step -/

/-- A step of the domain itself gives the same answer from equal shares. -/
theorem answer_step (h : s.share d = t.share d) {a : Step} (hd : a.domain = d) :
    (s.step a).value.2 = (t.step a).value.2 := by
  subst hd
  obtain ⟨htypes, -, -⟩ := share_eq_iff.1 h
  cases a with
  | registerBlock e =>
    have hblock : s.types.block = t.types.block := htypes
    simp only [step, Types.registerBlock, Logged.value_bind, Logged.value_pure, hblock]
  | registerItem e =>
    have hitem : s.types.item = t.types.item := htypes
    simp only [step, Types.registerItem, Logged.value_bind, Logged.value_pure, hitem]
  | within d a => exact (share_act h a).2

/-- Registering one entry in the domain's registry keeps equal shares equal, whatever
happens in the other registry. -/
theorem share_register (h : s.share d = t.share d) (e : TypeEntry) {sTypes tTypes : Types}
    (hs : sTypes.get d = ((s.types.get d).register e).value.1)
    (ht : tTypes.get d = ((t.types.get d).register e).value.1) :
    { s with types := sTypes }.share d = { t with types := tTypes }.share d := by
  obtain ⟨htypes, htags, hheld⟩ := share_eq_iff.1 h
  refine share_eq_iff.2 ⟨?_, htags, hheld⟩
  calc sTypes.get d = ((s.types.get d).register e).value.1 := hs
    _ = ((t.types.get d).register e).value.1 := by rw [htypes]
    _ = tTypes.get d := ht.symm

theorem share_step (h : s.share d = t.share d) {a b : Step} (hb : a.leftFor d = some b) :
    (s.step a).value.1.share d = (t.step b).value.1.share d := by
  cases a with
  | registerBlock e =>
    -- For the items, the shadow of the block on one side is the item on the other.
    cases d with
    | block | item =>
      obtain rfl := Option.some.inj hb
      exact share_register h e rfl rfl
  | registerItem e =>
    cases d with
    | block => cases hb
    | item =>
      obtain rfl := Option.some.inj hb
      exact share_register h e rfl rfl
  | within e a =>
    rw [Step.leftFor] at hb
    split at hb
    next he =>
      subst he
      obtain rfl := Option.some.inj hb
      exact (share_act h a).1
    next => cases hb

theorem share_step_of_none {a : Step} (ha : a.leftFor d = none) (s : Session) :
    (s.step a).value.1.share d = s.share d := by
  cases a with
  | registerBlock e => cases d <;> cases ha
  | registerItem e =>
    cases d with
    | block => rfl
    | item => cases ha
  | within e a =>
    rw [Step.leftFor] at ha
    split at ha
    next => cases ha
    next he => exact share_act_ne (Ne.symm he) s a

theorem shadowed_step (h : s.types.Shadowed) (a : Step) : (s.step a).value.1.types.Shadowed := by
  cases a with
  | registerBlock e => exact h.registerBlock e
  | registerItem e => exact h.registerItem e
  | within d a =>
    show (s.act d a).value.1.types.Shadowed
    rw [types_act]
    exact h

/-! ## Any number of steps -/

theorem share_after (steps : List Step) : ∀ {s t : Session}, s.share d = t.share d →
    (s.after steps).share d = (t.after (steps.filterMap (Step.leftFor d))).share d := by
  induction steps with
  | nil => exact fun h => h
  | cons a rest ih =>
    intro s t h
    cases ha : a.leftFor d with
    | none =>
      rw [List.filterMap_cons_none ha]
      exact ih ((share_step_of_none ha s).trans h)
    | some b =>
      rw [List.filterMap_cons_some ha]
      exact ih (share_step h ha)

theorem shadowed_after (steps : List Step) :
    ∀ {s : Session}, s.types.Shadowed → (s.after steps).types.Shadowed := by
  induction steps with
  | nil => exact fun h => h
  | cons a rest ih => exact fun h => ih (shadowed_step h a)

/-- A step of a run is taken by the session that the steps before it leave. -/
theorem run_append_cons (before : List Step) (a : Step) (later : List Step) : ∀ s : Session,
    (s.run (before ++ a :: later)).value[before.length]? =
      some ((s.after before).step a).value := by
  induction before with
  | nil => exact fun _ => rfl
  | cons b rest ih => exact fun s => ih (s.step b).value.1

end Session

open Session in
/-- Of a session and one domain, leave out all steps of which nothing is left for the
domain. Every step on the domain gets the same answer as before, and leaves the same
registry, tags and held tags; so does the session as a whole. Among the blocks no
identifier and no numeric id is in use that is not in use among the items. -/
theorem domains_independent (steps : List Step) (d : Domain) :
    let left := steps.filterMap (Step.leftFor d)
    (∀ before a later, steps = before ++ a :: later → a.domain = d → ∃ s t answer,
      (Session.empty.run steps).value[before.length]? = some (s, answer) ∧
      (Session.empty.run left).value[(before.filterMap (Step.leftFor d)).length]? =
        some (t, answer) ∧
      s.share d = t.share d) ∧
    (Session.empty.after steps).share d = (Session.empty.after left).share d ∧
    (Session.empty.after steps).types.Shadowed := by
  intro left
  refine ⟨?_, share_after steps rfl, shadowed_after steps Types.shadowed_empty⟩
  intro before a later happ hd
  have hleft : a.leftFor d = some a := by
    rw [← hd]
    exact a.leftFor_domain
  have happ' : left =
      before.filterMap (Step.leftFor d) ++ a :: later.filterMap (Step.leftFor d) := by
    show steps.filterMap (Step.leftFor d) = _
    rw [happ, List.filterMap_append, List.filterMap_cons_some hleft]
  -- The step is taken with the same share before it.
  have hshare := share_after (d := d) before (s := Session.empty) rfl
  refine ⟨_, _, ((Session.empty.after before).step a).value.2, ?_, ?_, share_step hshare hleft⟩
  · rw [happ, run_append_cons]
  · rw [happ', run_append_cons, answer_step hshare hd]

end RegistryTables
