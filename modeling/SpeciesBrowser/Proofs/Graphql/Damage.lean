import SpeciesBrowser.Proofs.Graphql.Decoding
import SpeciesBrowser.Proofs.Json.Misfits

/-!
# Rows that are damaged

A row may be no record, lack its id or have members of another type, and so may its names. One
such row among any others, and none of the rows is read: the fault of the one is the fault of the
answer.
-/

namespace SpeciesBrowser.Graphql

open Json

/-! ## Names and rows -/

/-- A text in the place of a name that is none. -/
inductive MalformedName : List Char → Prop where
  | noRecord {text : List Char} (noRecord : NoRecord text) : MalformedName text
  | noName {text : List Char} {members : List Member} {language : Option (Option Int64)}
      (object : SpellsObject text members)
      (isLanguage :
        Member.Holds members "language_id" (SpellsOptional SpellsInteger) language)
      (nowhere : Member.textsOf members "name" = [])
      (others : Member.OthersAny members ["language_id", "name"]) : MalformedName text
  | badName {text name : List Char} {members : List Member} {language : Option (Option Int64)}
      {found : Found} (object : SpellsObject text members)
      (isLanguage :
        Member.Holds members "language_id" (SpellsOptional SpellsInteger) language)
      (isName : Member.textsOf members "name" = [name]) (stands : StandsFor name found)
      (notText : ∀ value, found ≠ .text value)
      (others : Member.OthersAny members ["language_id", "name"]) : MalformedName text
  | badLanguage {text language : List Char} {members : List Member} {name : Option String}
      {found : Found} (object : SpellsObject text members)
      (isLanguage : Member.textsOf members "language_id" = [language])
      (stands : StandsFor language found) (notNull : found ≠ .null)
      (isName : Member.Holds members "name" SpellsString name)
      (others : Member.OthersAny members ["language_id", "name"]) : MalformedName text

/-- A text in the place of a row that is none. -/
inductive MalformedRow : List Char → Prop where
  | noRecord {text : List Char} (noRecord : NoRecord text) : MalformedRow text
  | noId {text : List Char} {members : List Member} {names : Option (List NameNode)}
      (object : SpellsObject text members) (nowhere : Member.textsOf members "id" = [])
      (isNames : Member.Holds members "names" (SpellsList SpellsName) names)
      (others : Member.OthersAny members ["id", "names"]) : MalformedRow text
  | badId {text id : List Char} {members : List Member} {names : Option (List NameNode)}
      {found : Found} (object : SpellsObject text members)
      (isId : Member.textsOf members "id" = [id]) (stands : StandsFor id found)
      (isNames : Member.Holds members "names" (SpellsList SpellsName) names)
      (others : Member.OthersAny members ["id", "names"]) : MalformedRow text
  | badNames {text names : List Char} {members : List Member} {id : Option Int64} {found : Found}
      (object : SpellsObject text members) (isId : Member.Holds members "id" SpellsInteger id)
      (isNames : Member.textsOf members "names" = [names]) (stands : StandsFor names found)
      (notSequence : found ≠ .sequence) (others : Member.OthersAny members ["id", "names"]) :
      MalformedRow text
  | badName {text names : List Char} {members : List Member} {id : Option Int64}
      {found : List (Option NameNode)} (object : SpellsObject text members)
      (isId : Member.Holds members "id" SpellsInteger id)
      (isNames : Member.textsOf members "names" = [names])
      (list : SpellsList (Among SpellsName MalformedName) names found) (isIn : none ∈ found)
      (others : Member.OthersAny members ["id", "names"]) : MalformedRow text

theorem hasSlots_name (language : Option (Option Int64)) (name : Option String) :
    HasSlots nameShape [languageSlot language, nameSlot name] := by
  have differ : "language_id" ≠ "name" := by decide
  exact hasSlots_pair rfl ⟨differ, fun _ _ => rfl, fun _ _ => rfl⟩ rfl rfl

theorem hasSlots_species (id : Option Int64) (names : Option (List NameNode)) :
    HasSlots speciesShape [idSlot id, namesSlot names] := by
  have differ : "id" ≠ "names" := by decide
  exact hasSlots_pair rfl ⟨differ, fun _ _ => rfl, fun _ _ => rfl⟩ rfl rfl

theorem hasSlots_data (species : Option (List SpeciesNode)) :
    HasSlots dataShape [speciesSlot species] where
  fields := rfl
  apart := List.pairwise_singleton _ _
  vacant := List.forall_mem_singleton.mpr rfl

theorem hasSlots_response (data : Option (Option (List SpeciesNode)))
    (errors : Option (List String)) :
    HasSlots responseShape [dataSlot data, errorsSlot errors] := by
  have differ : "data" ≠ "errors" := by decide
  exact hasSlots_pair rfl ⟨differ, fun _ _ => rfl, fun _ _ => rfl⟩ rfl rfl

/-- A name is not read without its text, or if one of its members is of another type. -/
theorem MalformedName.misfits {text : List Char} (malformed : MalformedName text) :
    Misfits (readRecord nameShape) text := by
  cases malformed with
  | noRecord noRecord => exact noRecord.misfits nameShape
  | @noName _ language object isLanguage nowhere others =>
      have unfinished : ∀ final : NameFields,
          (∀ slot ∈ [languageSlot language, nameSlot none], slot.get final = slot.found) →
            nameShape.finish final = .error "name" := by
        intro final found
        have unnamed : final.name = none :=
          found (nameSlot none) (List.mem_cons_of_mem _ List.mem_cons_self)
        simp only [nameShape, unnamed]
      exact ((hasSlots_name language none).breaks_of_missing
        (List.forall_mem_cons.mpr ⟨isLanguage, List.forall_mem_singleton.mpr (.absent nowhere)⟩)
        others object unfinished).misfits
  | @badName _ _ language _ object isLanguage isName stands notText others =>
      exact ((hasSlots_name language none).breaks_of_refused
        (List.mem_cons_of_mem _ List.mem_cons_self) isName (fun _ _ => rfl)
        (breaks_text stands notText)
        (List.forall_mem_cons.mpr ⟨fun _ => ⟨language, isLanguage⟩,
          List.forall_mem_singleton.mpr fun other => absurd rfl other⟩) others object).misfits
  | @badLanguage _ _ name _ object isLanguage stands notNull isName others =>
      exact ((hasSlots_name none name).breaks_of_refused List.mem_cons_self isLanguage
        (fun _ _ => rfl) ((breaks_integer stands).optional (stands.notNull notNull))
        (List.forall_mem_cons.mpr ⟨fun other => absurd rfl other,
          List.forall_mem_singleton.mpr fun _ => ⟨name, isName⟩⟩) others object).misfits

theorem breaks_row_of_names {text names : List Char} {members : List Member} {id : Option Int64}
    (object : SpellsObject text members) (isId : Member.Holds members "id" SpellsInteger id)
    (isNames : Member.textsOf members "names" = [names])
    (others : Member.OthersAny members ["id", "names"])
    (breaks : Breaks (readSequence (readRecord nameShape)) names) :
    Breaks (readRecord speciesShape) text :=
  (hasSlots_species id none).breaks_of_refused (List.mem_cons_of_mem _ List.mem_cons_self) isNames
    (fun _ _ => rfl) breaks
    (List.forall_mem_cons.mpr ⟨fun _ => ⟨id, isId⟩,
      List.forall_mem_singleton.mpr fun other => absurd rfl other⟩) others object

/-- A row is not read without its id, or if one of its members is of another type or, among the
names, malformed. -/
theorem MalformedRow.misfits {text : List Char} (malformed : MalformedRow text) :
    Misfits (readRecord speciesShape) text := by
  cases malformed with
  | noRecord noRecord => exact noRecord.misfits speciesShape
  | @noId _ names object nowhere isNames others =>
      have unfinished : ∀ final : SpeciesFields,
          (∀ slot ∈ [idSlot none, namesSlot names], slot.get final = slot.found) →
            speciesShape.finish final = .error "id" := by
        intro final found
        have unnumbered : final.id = none := found (idSlot none) List.mem_cons_self
        simp only [speciesShape, unnumbered]
      exact ((hasSlots_species none names).breaks_of_missing
        (List.forall_mem_cons.mpr ⟨.absent nowhere, List.forall_mem_singleton.mpr isNames⟩)
        others object unfinished).misfits
  | @badId _ _ names _ object isId stands isNames others =>
      exact ((hasSlots_species none names).breaks_of_refused List.mem_cons_self isId
        (fun _ _ => rfl) (breaks_integer stands)
        (List.forall_mem_cons.mpr ⟨fun other => absurd rfl other,
          List.forall_mem_singleton.mpr fun _ => ⟨names, isNames⟩⟩) others object).misfits
  | badNames object isId isNames stands notSequence others =>
      exact (breaks_row_of_names object isId isNames others
        (breaks_sequence _ stands notSequence)).misfits
  | badName object isId isNames list isIn others =>
      exact (breaks_row_of_names object isId isNames others
        (breaks_list reads_name MalformedName.misfits list isIn)).misfits

/-! ## Answers -/

/-- Data whose rows are spelled or misfit. -/
inductive SpellsRows : List Char → List (Option SpeciesNode) → Prop where
  | intro {text : List Char} {members : List Member} {rows : List (Option SpeciesNode)}
      (object : SpellsObject text members)
      (isSpecies : Member.Holds members "species"
        (SpellsList (Among SpellsSpecies (Misfits (readRecord speciesShape)))) (some rows))
      (others : Member.OthersAny members ["species"]) : SpellsRows text rows

/-- An answer with such data, beside errors or without them. -/
inductive SpellsAnswer : List Char → List (Option SpeciesNode) → Prop where
  | intro {text : List Char} {members : List Member} {rows : List (Option SpeciesNode)}
      {errors : Option (List String)} (object : SpellsObject text members)
      (isData : Member.Holds members "data" SpellsRows (some rows))
      (isErrors : Member.Holds members "errors" (SpellsList SpellsError) errors)
      (others : Member.OthersAny members ["data", "errors"]) : SpellsAnswer text rows

theorem SpellsRows.breaks {text : List Char} {rows : List (Option SpeciesNode)}
    (spelled : SpellsRows text rows) (isIn : none ∈ rows) :
    Breaks (readOptional (readRecord dataShape)) text := by
  cases spelled with
  | intro object isSpecies others =>
      cases isSpecies with
      | once only list =>
          have breaks := breaks_list reads_species (fun misfits => misfits) list isIn
          have breaks := (hasSlots_data none).breaks_of_refused List.mem_cons_self only
            (fun _ _ => rfl) breaks
            (List.forall_mem_singleton.mpr fun other => absurd rfl other) others object
          exact breaks.optional object.notNull

theorem SpellsAnswer.breaks {text : List Char} {rows : List (Option SpeciesNode)}
    (spelled : SpellsAnswer text rows) (isIn : none ∈ rows) :
    Breaks (readRecord responseShape) text := by
  cases spelled with
  | @intro _ _ errors object isData isErrors others =>
      cases isData with
      | once only data =>
          exact (hasSlots_response none errors).breaks_of_refused List.mem_cons_self only
            (fun _ _ => rfl) (data.breaks isIn)
            (List.forall_mem_cons.mpr ⟨fun other => absurd rfl other,
              List.forall_mem_singleton.mpr fun _ => ⟨errors, isErrors⟩⟩) others object

/-- An answer with a row that misfits is not read, whatever its other rows are. -/
theorem exists_read_eq_error {body : String} {rows : List (Option SpeciesNode)}
    (spelled : SpellsDocument SpellsAnswer body.toList rows) (isIn : none ∈ rows) :
    ∃ fault, Response.read body = .error fault := by
  rw [Response.read, readDocument]
  generalize body.toList = text at spelled
  cases spelled with
  | intro blankBefore spelled blankAfter =>
      obtain ⟨cause, stops⟩ := spelled.breaks isIn
      obtain ⟨fault, same, -⟩ := stops blankBefore
      refine ⟨fault, ?_⟩
      rw [same]
      rfl

end SpeciesBrowser.Graphql
