import RegistryTables.Generate
import RegistryTables.Proofs.Json.Tables

/-
  Loading the sources of a directory, for every state its eight files can be in.

  A file does not exist, or it cannot be read, or it has a text. A text that is a document of
  the source's shape gives the source's data; anything else gives no data at all and one
  report. What is proved:

   1. a source's file is read exactly if it is a document of the source's shape
      (`Source.reads_shape`), so what becomes of one source is decided by its own file
      (`Source.outcome_loadOrNone`);
   2. loading reads the sources one after the other, each by itself (`Sources.data_load`,
      `Sources.events_load`), from eight different files (`Source.path_injective`);
   3. an empty document in place of a file of no use changes nothing but the report
      (`Repaired.loadOrNone`);
   4. all of it for a whole directory (`sources_loaded`). -/
namespace RegistryTables

/-- What the data hold for a source. -/
def Sources.data (d : Sources) : (s : Source) → s.Data
  | .itemPalette => d.itemPalette
  | .externalLegacyBlockIds => d.externalLegacyBlockIds
  | .externalLegacyItemIds => d.externalLegacyItemIds
  | .internalLegacyItemIds => d.internalLegacyItemIds
  | .blockTags => d.blockTags
  | .itemTags => d.itemTags
  | .soundNames => d.soundNames
  | .musicNames => d.musicNames

theorem Sources.eq_of_data {d d' : Sources} (h : ∀ s, d.data s = d'.data s) : d = d' := by
  cases d
  cases d'
  simp only [Sources.mk.injEq]
  exact ⟨h .itemPalette, h .externalLegacyBlockIds, h .externalLegacyItemIds,
    h .internalLegacyItemIds, h .blockTags, h .itemTags, h .soundNames, h .musicNames⟩

namespace Source

open Json

/-- The text is a complete document of the source's shape, and stands for the data. -/
def Document : (s : Source) → String → s.Data → Prop
  | .itemPalette | .externalLegacyBlockIds | .externalLegacyItemIds | .internalLegacyItemIds =>
    fun text (table : IdTable) => ∃ ms, Json.Document (ObjectOf WritesId) ms text ∧
      table.HoldsLast ms
  | .blockTags | .itemTags =>
    fun text (table : MemberTable) => ∃ ms,
      Json.Document (ObjectOf (ArrayOf WritesText)) ms text ∧ table.HoldsLast ms
  | .soundNames | .musicNames => fun text names => Json.Document (ArrayOf WritesText) names text

/-- The text is an empty object or array, whichever the source's shape is. -/
def EmptyDocument : Source → String → Prop
  | .itemPalette | .externalLegacyBlockIds | .externalLegacyItemIds | .internalLegacyItemIds =>
    Json.Document (ObjectOf WritesId) []
  | .blockTags | .itemTags => Json.Document (ObjectOf (ArrayOf WritesText)) []
  | .soundNames | .musicNames => Json.Document (ArrayOf WritesText) []

/-- What becomes of a source, by the state of its file: its data, and the reports. -/
inductive Outcome (s : Source) (dir : String) :
    Except ReadFailure String → s.Data → List Event → Prop where
  | loaded {text : String} {data : s.Data} : s.Document text data →
      Outcome s dir (.ok text) data []
  | missing : Outcome s dir (.error .missing) s.noData [.sourceMissing s dir]
  | unreadable {failure : ReadFailure} : failure ≠ .missing →
      Outcome s dir (.error failure) s.noData
        [.sourceUnusable ⟨s, s.path dir, .read failure⟩]
  | malformed {text : String} {fault : Fault} : (∀ data, ¬ s.Document text data) →
      Outcome s dir (.ok text) s.noData [.sourceUnusable ⟨s, s.path dir, .parse fault⟩]

/-! One source. -/

/-- What is read from a text is what the text stands for, and every text that stands for
something is read. -/
structure Reads {α : Type} (shape : Shape α) (standsFor : String → α → Prop) : Prop where
  sound : ∀ {text a}, shape.readText text = .ok a → standsFor text a
  complete : ∀ {text a}, standsFor text a → ∃ b, shape.readText text = .ok b

theorem reads_table {β : Type} {e : Shape β} {writes : β → List Char → Prop}
    (hfits : e.Fits writes) : Reads (e.object.map Index.ofList) fun text table =>
      ∃ ms, Json.Document (ObjectOf writes) ms text ∧ table.HoldsLast ms where
  sound h := by
    obtain ⟨ms, htext, rfl⟩ := (Shape.readText_table_iff hfits).1 h
    exact ⟨ms, htext, Index.holdsLast_ofList ms⟩
  complete h := by
    obtain ⟨ms, htext, -⟩ := h
    exact ⟨Index.ofList ms, (Shape.readText_table_iff hfits).2 ⟨ms, htext, rfl⟩⟩

theorem reads_names : Reads Shape.names fun text names =>
    Json.Document (ArrayOf WritesText) names text where
  sound h := Shape.fits_text.array.readText_eq_ok_iff.1 h
  complete h := ⟨_, Shape.fits_text.array.readText_eq_ok_iff.2 h⟩

/-- A source's file is read exactly if it is a document of the source's shape. -/
theorem reads_shape (s : Source) : Reads s.shape s.Document := by
  cases s
  case itemPalette => exact reads_table Shape.fits_legacyId
  case externalLegacyBlockIds => exact reads_table Shape.fits_legacyId
  case externalLegacyItemIds => exact reads_table Shape.fits_legacyId
  case internalLegacyItemIds => exact reads_table Shape.fits_legacyId
  case blockTags => exact reads_table Shape.fits_text.array
  case itemTags => exact reads_table Shape.fits_text.array
  case soundNames => exact reads_names
  case musicNames => exact reads_names

/-- An empty object or array is read as no data. -/
theorem readText_of_empty {s : Source} {text : String} (h : s.EmptyDocument text) :
    s.shape.readText text = .ok s.noData := by
  have hids : Json.Document (ObjectOf WritesId) [] text →
      Shape.idTable.readText text = .ok Index.empty := fun h =>
    (Shape.readText_table_iff Shape.fits_legacyId).2 ⟨[], h, rfl⟩
  have hmembers : Json.Document (ObjectOf (ArrayOf WritesText)) [] text →
      Shape.memberTable.readText text = .ok Index.empty := fun h =>
    (Shape.readText_table_iff Shape.fits_text.array).2 ⟨[], h, rfl⟩
  have hnames : Json.Document (ArrayOf WritesText) [] text →
      Shape.names.readText text = .ok [] := Shape.fits_text.array.readText_eq_ok_iff.2
  cases s
  case blockTags => exact hmembers h
  case itemTags => exact hmembers h
  case soundNames => exact hnames h
  case musicNames => exact hnames h
  all_goals exact hids h

/-- What becomes of a source is decided by its own file. -/
theorem outcome_loadOrNone (s : Source) (dir : String) (read : FileReader) :
    s.Outcome dir (read (s.path dir)) (s.loadOrNone dir read).value
      (s.loadOrNone dir read).events := by
  cases hread : read (s.path dir) with
  | error failure =>
    rw [loadOrNone, load_of_failure hread]
    by_cases hmissing : failure = .missing
    · subst hmissing
      exact .missing
    · have hdegraded : degraded ⟨s, s.path dir, .read failure⟩ dir =
          .sourceUnusable ⟨s, s.path dir, .read failure⟩ := by
        simp [degraded, SourceFailure.isMissing, hmissing]
      simp only [hdegraded]
      exact .unreadable hmissing
  | ok text =>
    rw [loadOrNone, load_of_text hread]
    cases hparse : s.shape.readText text with
    | error fault =>
      refine .malformed fun data hdata => ?_
      obtain ⟨data', hok⟩ := s.reads_shape.complete hdata
      rw [hparse] at hok
      cases hok
    | ok data => exact .loaded (s.reads_shape.sound hparse)

theorem loadOrNone_of_read_eq {s : Source} {dir : String} {read read' : FileReader}
    (h : read (s.path dir) = read' (s.path dir)) :
    s.loadOrNone dir read = s.loadOrNone dir read' := by
  rw [loadOrNone, loadOrNone, load, load, h]

theorem loadOrNone_of_readText {s : Source} {dir : String} {read : FileReader} {text : String}
    {data : s.Data} (hread : read (s.path dir) = .ok text)
    (hdata : s.shape.readText text = .ok data) : s.loadOrNone dir read = pure data := by
  rw [loadOrNone, load_of_text hread, hdata]
  rfl

/-- The source's file is a document of the source's shape. -/
def Good (s : Source) (dir : String) (read : FileReader) : Prop :=
  ∃ text data, read (s.path dir) = .ok text ∧ s.Document text data

theorem value_of_not_good {s : Source} {dir : String} {read : FileReader}
    (h : ¬ s.Good dir read) : (s.loadOrNone dir read).value = s.noData := by
  have houtcome := s.outcome_loadOrNone dir read
  generalize (s.loadOrNone dir read).value = data at houtcome ⊢
  generalize (s.loadOrNone dir read).events = events at houtcome
  generalize hstate : read (s.path dir) = state at houtcome
  cases houtcome with
  | loaded hdata => exact absurd ⟨_, _, hstate, hdata⟩ h
  | missing => rfl
  | unreadable => rfl
  | malformed => rfl

/-! All sources. -/

/-- No two sources share a file. -/
theorem path_injective {s t : Source} {dir : String} (h : s.path dir = t.path dir) : s = t := by
  have hlists : (s.path dir).toList = (t.path dir).toList := congrArg String.toList h
  apply fileName_injective
  rw [← String.toList_inj]
  unfold path join at hlists
  split at hlists
  · simpa [String.toList_append] using hlists
  · simpa [String.toList_append] using hlists

/-- What is reported of a source has the level of the state of its file. -/
theorem level_of_mem_loadOrNone {s : Source} {dir : String} {read : FileReader} {e : Event}
    (he : e ∈ (s.loadOrNone dir read).events) :
    (read (s.path dir) = .error .missing ∧ e.level = .debug) ∨
      (read (s.path dir) ≠ .error .missing ∧ e.level = .warn) := by
  have houtcome := s.outcome_loadOrNone dir read
  generalize (s.loadOrNone dir read).value = data at houtcome
  generalize (s.loadOrNone dir read).events = events at he houtcome
  generalize read (s.path dir) = state at houtcome ⊢
  cases houtcome with
  | loaded => cases he
  | missing =>
    cases List.mem_singleton.1 he
    exact .inl ⟨rfl, rfl⟩
  | unreadable hfailure =>
    cases List.mem_singleton.1 he
    refine .inr ⟨?_, rfl⟩
    rintro ⟨⟩
    exact hfailure rfl
  | malformed =>
    cases List.mem_singleton.1 he
    exact .inr ⟨nofun, rfl⟩

end Source

theorem Sources.data_load (dir : String) (read : FileReader) (s : Source) :
    (Sources.load dir read).value.data s = (s.loadOrNone dir read).value := by
  cases s <;> rfl

theorem Sources.events_load (dir : String) (read : FileReader) :
    (Sources.load dir read).events =
      Source.all.flatMap fun s => (s.loadOrNone dir read).events := by
  simp [Sources.load, Source.all]

/-- The second directory has an empty document in place of every file that is of no use, and is
the first one otherwise. -/
def Repaired (dir : String) (read read' : FileReader) : Prop :=
  ∀ s : Source,
    (s.Good dir read → read' (s.path dir) = read (s.path dir)) ∧
    (¬ s.Good dir read → ∃ text, read' (s.path dir) = .ok text ∧ s.EmptyDocument text)

/-- With an empty document in place of a file of no use the source has the same data, and
nothing is reported of it. -/
theorem Repaired.loadOrNone {dir : String} {read read' : FileReader}
    (h : Repaired dir read read') (s : Source) :
    s.loadOrNone dir read' = pure (s.loadOrNone dir read).value := by
  obtain ⟨hgood, hbad⟩ := h s
  by_cases hs : s.Good dir read
  · rw [Source.loadOrNone_of_read_eq (hgood hs)]
    obtain ⟨text, data, hread, hdata⟩ := hs
    obtain ⟨data', hok⟩ := s.reads_shape.complete hdata
    rw [Source.loadOrNone_of_readText hread hok]
    rfl
  · obtain ⟨text, hread', hempty⟩ := hbad hs
    rw [Source.value_of_not_good hs]
    exact Source.loadOrNone_of_readText hread' (Source.readText_of_empty hempty)

/-- **Every source has the data of its own file or none, and every file of no use is reported
once.** A file that does not exist is a detail, one that cannot be read or is no document of the
source's shape a warning, and a good file is not reported. No source sees another one's file,
and a run comes out as if every file of no use held an empty object or array. -/
theorem sources_loaded (dir : String) (read : FileReader) :
    (Sources.load dir read).events =
      (Source.all.flatMap fun s => (s.loadOrNone dir read).events) ∧
    (∀ s : Source, s.Outcome dir (read (s.path dir)) ((Sources.load dir read).value.data s)
      (s.loadOrNone dir read).events) ∧
    (∀ s : Source, ∀ e ∈ (s.loadOrNone dir read).events,
      (read (s.path dir) = .error .missing ∧ e.level = .debug) ∨
        (read (s.path dir) ≠ .error .missing ∧ e.level = .warn)) ∧
    (∀ s t : Source, s.path dir = t.path dir → s = t) ∧
    (∀ (read' : FileReader) (s : Source), read' (s.path dir) = read (s.path dir) →
      (Sources.load dir read').value.data s = (Sources.load dir read).value.data s ∧
        (s.loadOrNone dir read').events = (s.loadOrNone dir read).events) ∧
    ∀ read' : FileReader, Repaired dir read read' →
      (Sources.load dir read').events = [] ∧
        ∀ c : Config, generate (Sources.load dir read').value c =
          generate (Sources.load dir read).value c := by
  refine ⟨Sources.events_load dir read, ?_, ?_, ?_, ?_, ?_⟩
  · intro s
    rw [Sources.data_load]
    exact s.outcome_loadOrNone dir read
  · intro s e he
    exact Source.level_of_mem_loadOrNone he
  · intro s t
    exact Source.path_injective
  · intro read' s hsame
    rw [Sources.data_load, Sources.data_load, Source.loadOrNone_of_read_eq hsame]
    exact ⟨rfl, rfl⟩
  · intro read' hrepaired
    have hdata : (Sources.load dir read').value = (Sources.load dir read).value := by
      apply Sources.eq_of_data
      intro s
      rw [Sources.data_load, Sources.data_load, hrepaired.loadOrNone]
      rfl
    have hevents : (Sources.load dir read').events = [] := by
      rw [Sources.events_load, List.flatMap_eq_nil_iff]
      intro s _
      rw [hrepaired.loadOrNone]
      rfl
    refine ⟨hevents, ?_⟩
    intro c
    rw [hdata]

/-- A directory with a good palette, tags with a comma too many, sounds that cannot be read, and
no other files. -/
def paletteOnly : FileReader := fun path =>
  if path = "d/item_palette.json" then .ok "\x7b\"a\":1\x7d"
  else if path = "d/block_tags.json" then .ok "\x7b\"t\":[],\x7d"
  else if path = "d/sound_names.json" then .error .isDirectory
  else .error .missing

def paletteAndEmpty : FileReader := fun path =>
  if path = "d/item_palette.json" then .ok "\x7b\"a\":1\x7d"
  else if path = "d/sound_names.json" ∨ path = "d/music_names.json" then .ok "[]"
  else .ok "\x7b\x7d"

open Json in
theorem good_paletteOnly_iff (s : Source) : s.Good "d" paletteOnly ↔ s = .itemPalette := by
  constructor
  · rintro ⟨text, data, hread, hdata⟩
    cases s
    case itemPalette => rfl
    case blockTags =>
      exfalso
      have htext : paletteOnly (Source.path .blockTags "d") = .ok "\x7b\"t\":[],\x7d" := by decide
      cases htext.symm.trans hread
      have hfault : Shape.memberTable.readText "\x7b\"t\":[],\x7d" = .error .malformed := by cbv
      obtain ⟨b, hok⟩ := (Source.reads_shape .blockTags).complete hdata
      cases hfault.symm.trans hok
    case soundNames =>
      have hstate : paletteOnly (Source.path .soundNames "d") = .error .isDirectory := by decide
      cases hstate.symm.trans hread
    all_goals
      -- The other files are missing.
      have hstate : Except.error ReadFailure.missing = Except.ok text := hread
      cases hstate
  · rintro rfl
    have ha := writesText_writeString "a"
    have hwritten : ObjectOf WritesId [("a", 1)] _ := .full (.last (.plain ha rfl))
    have htext : paletteOnly (Source.path .itemPalette "d") = .ok "\x7b\"a\":1\x7d" := by decide
    have hdocument : Json.Document (ObjectOf WritesId) [("a", 1)] "\x7b\"a\":1\x7d" :=
      .plain hwritten (by decide)
    exact ⟨_, _, htext, _, hdocument, Index.holdsLast_ofList _⟩

open Json in
theorem repaired_paletteOnly : Repaired "d" paletteOnly paletteAndEmpty := by
  have hobject : ∀ {α : Type} (writes : α → List Char → Prop),
      Json.Document (ObjectOf writes) [] "\x7b\x7d" :=
    fun _ => .plain (.empty blank_nil) (by decide)
  have harray : Json.Document (ArrayOf WritesText) [] "[]" := .plain (.empty blank_nil) (by decide)
  intro s
  rw [good_paletteOnly_iff]
  refine ⟨?_, ?_⟩
  · rintro rfl
    decide
  · intro hs
    cases s
    case itemPalette => exact absurd rfl hs
    case soundNames => exact ⟨_, by decide, harray⟩
    case musicNames => exact ⟨_, by decide, harray⟩
    all_goals exact ⟨_, by decide, hobject _⟩

/-- The good palette is kept, whatever the other files are, and a run from it alone comes out
like one with empty files beside it. -/
theorem sources_loaded_paletteOnly :
    (Sources.load "d" paletteAndEmpty).value.data .itemPalette =
      (Sources.load "d" paletteOnly).value.data .itemPalette ∧
    Repaired "d" paletteOnly paletteAndEmpty ∧ (Sources.load "d" paletteAndEmpty).events = [] ∧
    ∀ c : Config, generate (Sources.load "d" paletteAndEmpty).value c =
      generate (Sources.load "d" paletteOnly).value c := by
  obtain ⟨-, -, -, -, halone, hreplaced⟩ := sources_loaded "d" paletteOnly
  have hpalette : paletteAndEmpty (Source.path .itemPalette "d") =
      paletteOnly (Source.path .itemPalette "d") := by decide
  exact ⟨(halone _ _ hpalette).1, repaired_paletteOnly, hreplaced _ repaired_paletteOnly⟩

end RegistryTables
