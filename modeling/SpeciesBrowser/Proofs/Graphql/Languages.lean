import SpeciesBrowser.Proofs.Graphql.Asking
import SpeciesBrowser.Proofs.Graphql.Reporting
import Mathlib.Data.List.Forall2

/-!
# Shown languages

A row shows the first label of its entity in each of two languages. All other labels make no
difference, so it makes none either that the server is asked for names in these languages only, or
that names without a language are dropped.
-/

namespace SpeciesBrowser

/-! ## First labels -/

/-- The text of the first item that fits, or none if no item does. -/
inductive FirstText (fits : α → Prop) (text : α → String) : List α → Option String → Prop where
  | found {before after : List α} {item : α} (earlier : ∀ other ∈ before, ¬fits other)
      (isFirst : fits item) : FirstText fits text (before ++ item :: after) (some (text item))
  | missing {items : List α} (nowhere : ∀ item ∈ items, ¬fits item) :
      FirstText fits text items none

theorem firstText_find? (fits : α → Prop) [DecidablePred fits] (text : α → String)
    (items : List α) : FirstText fits text items ((items.find? (fits ·)).map text) := by
  cases found : items.find? (fits ·) with
  | none =>
      refine .missing fun item isIn => ?_
      simpa using List.find?_eq_none.mp found item isIn
  | some item =>
      obtain ⟨isFirst, before, after, rfl, earlier⟩ := List.find?_eq_some_iff_append.mp found
      refine .found (fun other isIn => ?_) (of_decide_eq_true isFirst)
      simpa using earlier other isIn

/-- The first label in a language. -/
def Entity.FirstIn (entity : Entity) (language : Int64) : Option String → Prop :=
  FirstText (·.language = language) (·.text) entity.labels

/-- A row has an id, and in its columns what is first in the two languages. -/
structure Row.Shows (row : Row) (config : ListConfig) (id : Int64)
    (first : Int64 → Option String → Prop) : Prop where
  id : row.id = id
  primary : first config.primary row.primary
  secondary : first config.secondary row.secondary

namespace ListConfig

variable {config : ListConfig} {entity other : Entity} {entities others : List Entity}

theorem row_shows (config : ListConfig) (entity : Entity) :
    (config.row entity).Shows config entity.id entity.FirstIn :=
  ⟨rfl, firstText_find? _ _ _, firstText_find? _ _ _⟩

/-- Entities with the same labels, in the same order, in each of the two languages. -/
structure Alike (config : ListConfig) (entity other : Entity) : Prop where
  id : other.id = entity.id
  primary : other.labels.filter (·.language = config.primary) =
    entity.labels.filter (·.language = config.primary)
  secondary : other.labels.filter (·.language = config.secondary) =
    entity.labels.filter (·.language = config.secondary)

theorem labelIn?_of_filter {language : Int64}
    (same : other.labels.filter (·.language = language) =
      entity.labels.filter (·.language = language)) :
    other.labelIn? language = entity.labelIn? language := by
  unfold Entity.labelIn?
  rw [← List.head?_filter, ← List.head?_filter, same]

theorem Alike.row (alike : config.Alike entity other) : config.row other = config.row entity := by
  unfold ListConfig.row
  rw [alike.id, labelIn?_of_filter alike.primary, labelIn?_of_filter alike.secondary]

theorem exists_view (config : ListConfig) (page : Page) (entities : List Entity) :
    ∃ view, View.ofOutcome page config (.loaded entities) = .ready view ∧
      view.rows = entities.map config.row :=
  ⟨_, rfl, rfl⟩

theorem view_of_alike (page : Page) (alike : List.Forall₂ config.Alike entities others) :
    View.ofOutcome page config (.loaded others) =
      View.ofOutcome page config (.loaded entities) := by
  have rows : others.map config.row = entities.map config.row := by
    induction alike with
    | nil => rfl
    | cons first _ ih => rw [List.map_cons, List.map_cons, first.row, ih]
  simp only [View.ofOutcome, rows]

end ListConfig

/-! ## Names of the server -/

namespace Graphql

open Json

namespace SpeciesNode

variable {languages : List Int64} {language : Int64}

/-- The first name in a language, among all names that the server has for the row. -/
def FirstIn (node : SpeciesNode) (language : Int64) : Option String → Prop :=
  FirstText (·.language = some language) (·.name) node.names

/-- What the server leaves of a row when it is asked for names in some languages. -/
def only (languages : List Int64) (node : SpeciesNode) : SpeciesNode :=
  { node with names := node.names.filter fun name => name.language.any (languages.contains ·) }

theorem labelIn?_entity (node : SpeciesNode) (language : Int64) :
    node.entity.labelIn? language =
      (node.names.find? (·.language = some language)).map (·.name) := by
  simp only [Entity.labelIn?, entity]
  induction node.names with
  | nil => rfl
  | cons name rest ih =>
      obtain ⟨own?, text⟩ := name
      cases own? with
      | none => simpa [NameNode.label?] using ih
      | some own =>
          by_cases same : own = language
          · simp [NameNode.label?, same]
          · simpa [NameNode.label?, same] using ih

/-- Names without a language are no labels, and yet the row shows what is first among all names. -/
theorem row_shows (config : ListConfig) (node : SpeciesNode) :
    (config.row node.entity).Shows config node.id node.FirstIn := by
  constructor
  · rfl
  · simp only [ListConfig.row, labelIn?_entity]
    exact firstText_find? _ _ _
  · simp only [ListConfig.row, labelIn?_entity]
    exact firstText_find? _ _ _

theorem filter_only (node : SpeciesNode) (isIn : language ∈ languages) :
    (node.only languages).entity.labels.filter (·.language = language) =
      node.entity.labels.filter (·.language = language) := by
  simp only [entity, only, List.filterMap_filter, List.filter_filterMap]
  refine List.filterMap_congr fun name _ => ?_
  obtain ⟨own?, text⟩ := name
  cases own? with
  | none => rfl
  | some own =>
      by_cases same : own = language
      · simp [same, isIn]
      · by_cases asked : own ∈ languages
        · simp [asked]
        · simp [asked, same, NameNode.label?, Option.filter]

theorem alike_only {config : ListConfig} (primary : config.primary ∈ languages)
    (secondary : config.secondary ∈ languages) (node : SpeciesNode) :
    config.Alike node.entity (node.only languages).entity :=
  ⟨rfl, node.filter_only primary, node.filter_only secondary⟩

end SpeciesNode

/-- An answer with rows is shown as these rows. -/
theorem outcomeOf_spelled (query : Query) {status : Nat} {body : String}
    {species : List SpeciesNode} (success : 200 ≤ status ∧ status < 300)
    (spelled : SpellsDocument SpellsResponse body.toList { data := some species, errors := [] }) :
    (outcomeOf query (.answered status body)).value =
      .loaded (species.map SpeciesNode.entity) := by
  have succeeds : Http.isSuccess status = true := by
    simpa [Http.isSuccess] using success
  rw [outcomeOf_answered, succeeds, decode, read_spelled spelled]
  rfl

/-- A row shows the first labels in its two languages, and entities that have the same labels in
these languages are shown in the same way. A source asks for names in exactly these languages, and
whether or not the server leaves out the others, each row shows what is first among all names. -/
theorem shows_first_labels :
    (∀ (config : ListConfig) (page : Page) (entities : List Entity),
      ∃ view, View.ofOutcome page config (.loaded entities) = .ready view ∧
        List.Forall₂ (fun entity row => row.Shows config entity.id entity.FirstIn)
          entities view.rows ∧
        ∀ others, List.Forall₂ config.Alike entities others →
          View.ofOutcome page config (.loaded others) = .ready view) ∧
    ∀ (settings : Settings) (query : Query) (page : Page),
      let languages := (Source.ofSettings settings).languages
      let body := ((Source.ofSettings settings).request query).body
      body = queryBody query languages ∧
      SpellsDocument SpellsRequest body.toList { query, languages } ∧
      (∀ language, language ∈ languages ↔
        language = settings.primary ∨ language = settings.secondary) ∧
      ∀ (species : List SpeciesNode) (status : Nat) (whole part : String),
        200 ≤ status ∧ status < 300 →
        SpellsDocument SpellsResponse whole.toList { data := some species, errors := [] } →
        SpellsDocument SpellsResponse part.toList
          { data := some (species.map (·.only languages)), errors := [] } →
        ∃ view,
          View.ofOutcome page settings.listConfig
            (outcomeOf query (.answered status whole)).value = .ready view ∧
          View.ofOutcome page settings.listConfig
            (outcomeOf query (.answered status part)).value = .ready view ∧
          List.Forall₂ (fun node row => row.Shows settings.listConfig node.id node.FirstIn)
            species view.rows := by
  constructor
  · intro config page entities
    obtain ⟨view, ready, rows⟩ := config.exists_view page entities
    refine ⟨view, ready, ?_, fun others alike => ?_⟩
    · rw [rows, List.forall₂_map_right_iff]
      exact List.forall₂_same.mpr fun entity _ => config.row_shows entity
    · rw [← ready]
      exact ListConfig.view_of_alike page alike
  · intro settings query page languages body
    have asked : languages = [settings.primary, settings.secondary] := rfl
    refine ⟨rfl, spellsRequest_queryBody query languages, fun language => by simp [asked], ?_⟩
    intro species status whole part success spelled spelledPart
    obtain ⟨view, ready, rows⟩ :=
      settings.listConfig.exists_view page (species.map SpeciesNode.entity)
    have alike : List.Forall₂ settings.listConfig.Alike (species.map SpeciesNode.entity)
        ((species.map (·.only languages)).map SpeciesNode.entity) := by
      rw [List.map_map, List.forall₂_map_left_iff, List.forall₂_map_right_iff]
      exact List.forall₂_same.mpr fun node _ =>
        node.alike_only List.mem_cons_self (List.mem_cons_of_mem _ List.mem_cons_self)
    refine ⟨view, ?_, ?_, ?_⟩
    · rw [outcomeOf_spelled query success spelled, ready]
    · rw [outcomeOf_spelled query success spelledPart, ListConfig.view_of_alike page alike, ready]
    · rw [rows, List.map_map, List.forall₂_map_right_iff]
      exact List.forall₂_same.mpr fun node _ => node.row_shows settings.listConfig

/-! ## An answer with one row -/

def memberText (name : String) (text : List Char) : List Char :=
  '"' :: (name.toList ++ '"' :: ':' :: text)

def framed (frame : Frame) (text : List Char) : List Char :=
  frame.opening :: (text ++ [frame.closing])

/-- A name of one letter, in a language or in none. -/
def nameText (language : List Char) (letter : Char) : List Char :=
  framed .object
    (memberText "language_id" language ++ ',' :: memberText "name" ['"', letter, '"'])

/-- An answer with one row, around its names. -/
def rowAround (names : List Char) : List Char :=
  framed .object (memberText "data" (framed .object (memberText "species" (framed .list
    (framed .object
      (memberText "id" ['2', '5'] ++ ',' :: memberText "names" (framed .list names)))))))

theorem spells_nameText {text : List Char} {language : Option Int64} {letter : Char}
    (spelled : SpellsOptional SpellsInteger text language) (plain : IsPlain letter) :
    SpellsName (nameText text letter) { language, name := String.ofList [letter] } := by
  have isName : SpellsString ['"', letter, '"'] (String.ofList [letter]) := by
    rw [SpellsString, String.toList_ofList]
    exact @SpellsQuoted.intro [letter] [letter] (.plain plain .done)
  exact @SpellsName.intro _ _ (some language) _
    (.full (spellsItems_next (spellsMember_plain "language_id" text (by decide))
      (spellsItems_last (spellsMember_plain "name" ['"', letter, '"'] (by decide)))))
    (.once rfl spelled) (.once rfl isName) (by simp [Member.OthersAny])

theorem spells_rowAround {text : List Char} {names : List NameNode}
    (items : SpellsItems SpellsName text names) :
    SpellsDocument SpellsResponse (rowAround text)
      { data := some [{ id := 25, names }], errors := [] } := by
  have isRow : SpellsSpecies _ { id := 25, names } :=
    @SpellsSpecies.intro _ _ _ (some names)
      (.full (spellsItems_next (spellsMember_plain "id" ['2', '5'] (by decide))
        (spellsItems_last (spellsMember_plain "names" (framed .list text) (by decide)))))
      (.once rfl rfl) (.once rfl (.full items)) (by simp [Member.OthersAny])
  have isData : SpellsData _ [{ id := 25, names }] :=
    .intro (.full (spellsItems_last (spellsMember_plain "species" _ (by decide))))
      (.once rfl (.full (spellsItems_last isRow))) (by simp [Member.OthersAny])
  have isResponse : SpellsResponse (rowAround text)
      { data := some [{ id := 25, names }], errors := [] } :=
    @SpellsResponse.intro _ _ (some (some _)) none
      (.full (spellsItems_last (spellsMember_plain "data" _ (by decide))))
      (.once rfl (.value isData)) (.absent rfl) (by simp [Member.OthersAny])
  exact .bare isResponse

/-- Both columns show one language. A name in no language and one in another stand before the shown
name, and it is shown whether or not the server leaves them out. -/
theorem shows_first_labels_of_one_language :
    let settings : Settings := { primary := 9, secondary := 9 }
    let row : SpeciesNode :=
      { id := 25, names := [⟨none, "a"⟩, ⟨some 1, "b"⟩, ⟨some 9, "c"⟩, ⟨some 9, "d"⟩] }
    let part := row.only (Source.ofSettings settings).languages
    let names := nameText ['9'] 'c' ++ ',' :: nameText ['9'] 'd'
    let whole :=
      nameText ['n', 'u', 'l', 'l'] 'a' ++ ',' :: (nameText ['1'] 'b' ++ ',' :: names)
    let shown (names : List Char) : View := View.ofOutcome .first settings.listConfig
      (outcomeOf ⟨0, 50⟩ (.answered 200 (String.ofList (rowAround names)))).value
    (200 ≤ 200 ∧ 200 < 300 ∧
      SpellsDocument SpellsResponse (rowAround whole) { data := some [row], errors := [] } ∧
      SpellsDocument SpellsResponse (rowAround names) { data := some [part], errors := [] } ∧
      settings.listConfig.Alike row.entity part.entity) ∧
    shown whole =
      .ready { rows := [⟨25, some "c", some "c"⟩], hasPrev := false, hasNext := false } ∧
    shown names = shown whole ∧
    View.ofOutcome .first settings.listConfig (.loaded [part.entity]) =
      View.ofOutcome .first settings.listConfig (.loaded [row.entity]) := by
  intro settings row part names whole shown
  have isPart : SpellsItems SpellsName names part.names :=
    spellsItems_next (spells_nameText (.value rfl) (by decide))
      (spellsItems_last (spells_nameText (.value rfl) (by decide)))
  have isWhole : SpellsItems SpellsName whole row.names :=
    spellsItems_next (spells_nameText .null (by decide))
      (spellsItems_next (spells_nameText (.value rfl) (by decide)) isPart)
  have spelled := spells_rowAround isWhole
  have spelledPart := spells_rowAround isPart
  have alike : settings.listConfig.Alike row.entity part.entity :=
    row.alike_only List.mem_cons_self List.mem_cons_self
  obtain ⟨shows, answered⟩ := shows_first_labels
  obtain ⟨view, ready, -, same⟩ := shows settings.listConfig .first [row.entity]
  obtain ⟨-, -, -, answered⟩ := answered settings ⟨0, 50⟩ .first
  rw [← @String.toList_ofList (rowAround whole)] at spelled
  rw [← @String.toList_ofList (rowAround names)] at spelledPart
  obtain ⟨both, isShown, isShownPart, -⟩ :=
    answered [row] 200 _ _ ⟨by decide, by decide⟩ spelled spelledPart
  refine ⟨⟨by decide, by decide, ?_, ?_, alike⟩, ?_, isShownPart.trans isShown.symm, ?_⟩
  · rwa [String.toList_ofList] at spelled
  · rwa [String.toList_ofList] at spelledPart
  · have loaded := @outcomeOf_spelled ⟨0, 50⟩ 200 _ _ ⟨by decide, by decide⟩ spelled
    exact (congrArg (View.ofOutcome .first settings.listConfig) loaded).trans rfl
  · exact (same _ (.cons alike .nil)).trans ready.symm

end Graphql

end SpeciesBrowser
