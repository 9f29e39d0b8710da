import SpeciesBrowser.Graphql.Response
import SpeciesBrowser.Proofs.Json.Records

/-!
# Decoding answers

Which documents spell an answer of the server, and that decoding gives back the answer whatever
the spelling: blanks, escapes, the order of the members and members that nobody asked for make no
difference.
-/

namespace SpeciesBrowser.Graphql

open Json

/-! ## Documents of the server -/

/-- A name may have a language, have null in its place, or say nothing about it. -/
inductive SpellsName : List Char → NameNode → Prop where
  | intro {text : List Char} {members : List Member} {language : Option (Option Int64)}
      {name : String} (object : SpellsObject text members)
      (isLanguage :
        Member.Holds members "language_id" (SpellsOptional SpellsInteger) language)
      (isName : Member.Holds members "name" SpellsString (some name))
      (others : Member.OthersAny members ["language_id", "name"]) :
      SpellsName text { language := language.getD none, name }

/-- A row without names may leave them out. -/
inductive SpellsSpecies : List Char → SpeciesNode → Prop where
  | intro {text : List Char} {members : List Member} {id : Int64}
      {names : Option (List NameNode)} (object : SpellsObject text members)
      (isId : Member.Holds members "id" SpellsInteger (some id))
      (isNames : Member.Holds members "names" (SpellsList SpellsName) names)
      (others : Member.OthersAny members ["id", "names"]) :
      SpellsSpecies text { id, names := names.getD [] }

inductive SpellsData : List Char → List SpeciesNode → Prop where
  | intro {text : List Char} {members : List Member} {species : List SpeciesNode}
      (object : SpellsObject text members)
      (isSpecies : Member.Holds members "species" (SpellsList SpellsSpecies) (some species))
      (others : Member.OthersAny members ["species"]) : SpellsData text species

inductive SpellsError : List Char → String → Prop where
  | intro {text : List Char} {members : List Member} {message : String}
      (object : SpellsObject text members)
      (isMessage : Member.Holds members "message" SpellsString (some message))
      (others : Member.OthersAny members ["message"]) : SpellsError text message

/-- Data and errors may both be left out, and data may be null. -/
inductive SpellsResponse : List Char → Response → Prop where
  | intro {text : List Char} {members : List Member}
      {data : Option (Option (List SpeciesNode))} {errors : Option (List String)}
      (object : SpellsObject text members)
      (isData : Member.Holds members "data" (SpellsOptional SpellsData) data)
      (isErrors : Member.Holds members "errors" (SpellsList SpellsError) errors)
      (others : Member.OthersAny members ["data", "errors"]) :
      SpellsResponse text { data := data.getD none, errors := errors.getD [] }

/-! ## Reading the records -/

theorem notNull_data {text rest tail : List Char} {species : List SpeciesNode}
    (spelled : SpellsData text species) : skipBlanks (text ++ rest) ≠ 'n' :: tail := by
  cases spelled with
  | intro object _ _ => exact object.notNull

theorem gives_string {before text rest : List Char} {value : String}
    (spelled : SpellsString text value) (blank : Blank before) (ends : Ends rest)
    (put : String → σ) :
    Gives (mapValue (fun value => put (String.ofList value)) (readText (before ++ (text ++ rest))))
      (put value) rest := by
  have read := mapValue_of_gives (reads_text.gives spelled blank ends) fun value =>
    put (String.ofList value)
  rwa [String.ofList_toList] at read

def languageSlot (found : Option (Option Int64)) : Slot NameFields where
  field := nameShape.fields.get ⟨0, by decide⟩
  Held := Option Int64
  get := (·.language)
  put := fun state language => { state with language := some language }
  spells := SpellsOptional SpellsInteger
  found := found
  gives := fun spelled blank ends => mapValue_of_gives
    ((reads_integer.optional notNull_integer).gives spelled blank ends) _

def nameSlot (found : Option String) : Slot NameFields where
  field := nameShape.fields.get ⟨1, by decide⟩
  Held := String
  get := (·.name)
  put := fun state name => { state with name := some name }
  spells := SpellsString
  found := found
  gives := by
    intro state before text rest name spelled blank ends
    exact gives_string spelled blank ends fun name => { state with name := some name }

theorem reads_name : Reads (readRecord nameShape) SpellsName := by
  refine Reads.record ?_
  rintro text _ (@⟨members, language, name, object, isLanguage, isName, others⟩)
  have differ : "language_id" ≠ "name" := by decide
  refine ⟨[languageSlot language, nameSlot (some name)], members, object, ?_⟩
  refine fills_pair rfl ⟨differ, fun _ _ => rfl, fun _ _ => rfl⟩ rfl rfl isLanguage isName
    others ?_
  intro final (found : final.language = language) (found' : final.name = some name)
  simp only [nameShape, found, found']

def idSlot (found : Option Int64) : Slot SpeciesFields where
  field := speciesShape.fields.get ⟨0, by decide⟩
  Held := Int64
  get := (·.id)
  put := fun state id => { state with id := some id }
  spells := SpellsInteger
  found := found
  gives := fun spelled blank ends =>
    mapValue_of_gives (reads_integer.gives spelled blank ends) _

def namesSlot (found : Option (List NameNode)) : Slot SpeciesFields where
  field := speciesShape.fields.get ⟨1, by decide⟩
  Held := List NameNode
  get := (·.names)
  put := fun state names => { state with names := some names }
  spells := SpellsList SpellsName
  found := found
  gives := fun spelled blank ends =>
    mapValue_of_gives (reads_name.sequence.gives spelled blank ends) _

theorem reads_species : Reads (readRecord speciesShape) SpellsSpecies := by
  refine Reads.record ?_
  rintro text _ (@⟨members, id, names, object, isId, isNames, others⟩)
  have differ : "id" ≠ "names" := by decide
  refine ⟨[idSlot (some id), namesSlot names], members, object, ?_⟩
  refine fills_pair rfl ⟨differ, fun _ _ => rfl, fun _ _ => rfl⟩ rfl rfl isId isNames others ?_
  intro final (found : final.id = some id) (found' : final.names = names)
  simp only [speciesShape, found, found']

def speciesSlot (found : Option (List SpeciesNode)) : Slot (Option (List SpeciesNode)) where
  field := dataShape.fields.get ⟨0, by decide⟩
  Held := List SpeciesNode
  get := id
  put := fun _ species => some species
  spells := SpellsList SpellsSpecies
  found := found
  gives := fun spelled blank ends =>
    mapValue_of_gives (reads_species.sequence.gives spelled blank ends) _

theorem reads_data : Reads (readRecord dataShape) SpellsData := by
  refine Reads.record ?_
  rintro text species (@⟨members, _, object, isSpecies, others⟩)
  refine ⟨[speciesSlot (some species)], members, object, ?_⟩
  refine fills_single rfl rfl isSpecies others ?_
  intro final (found : final = some species)
  simp only [dataShape, found]

def messageSlot (found : Option String) : Slot (Option String) where
  field := errorShape.fields.get ⟨0, by decide⟩
  Held := String
  get := id
  put := fun _ message => some message
  spells := SpellsString
  found := found
  gives := fun spelled blank ends => gives_string spelled blank ends some

theorem reads_error : Reads (readRecord errorShape) SpellsError := by
  refine Reads.record ?_
  rintro text message (@⟨members, _, object, isMessage, others⟩)
  refine ⟨[messageSlot (some message)], members, object, ?_⟩
  refine fills_single rfl rfl isMessage others ?_
  intro final (found : final = some message)
  simp only [errorShape, found]

def dataSlot (found : Option (Option (List SpeciesNode))) : Slot ResponseFields where
  field := responseShape.fields.get ⟨0, by decide⟩
  Held := Option (List SpeciesNode)
  get := (·.data)
  put := fun state data => { state with data := some data }
  spells := SpellsOptional SpellsData
  found := found
  gives := fun spelled blank ends => mapValue_of_gives
    ((reads_data.optional notNull_data).gives spelled blank ends) _

def errorsSlot (found : Option (List String)) : Slot ResponseFields where
  field := responseShape.fields.get ⟨1, by decide⟩
  Held := List String
  get := (·.errors)
  put := fun state errors => { state with errors := some errors }
  spells := SpellsList SpellsError
  found := found
  gives := fun spelled blank ends =>
    mapValue_of_gives (reads_error.sequence.gives spelled blank ends) _

theorem reads_response : Reads (readRecord responseShape) SpellsResponse := by
  refine Reads.record ?_
  rintro text _ (@⟨members, data, errors, object, isData, isErrors, others⟩)
  have differ : "data" ≠ "errors" := by decide
  refine ⟨[dataSlot data, errorsSlot errors], members, object, ?_⟩
  refine fills_pair rfl ⟨differ, fun _ _ => rfl, fun _ _ => rfl⟩ rfl rfl isData isErrors others ?_
  intro final (found : final.data = data) (found' : final.errors = errors)
  simp only [responseShape, found, found']

/-! ## Decoding -/

/-- Whatever the spelling of an answer, the answer is what is read. -/
theorem read_spelled {body : String} {response : Response}
    (spelled : SpellsDocument SpellsResponse body.toList response) :
    Response.read body = .ok response :=
  reads_response.document spelled

/-- Rows are decoded to their entities in order. Of the names of a row, those without a language
are left out, and the others keep their order. -/
theorem decode_spelled {body : String} {species : List SpeciesNode}
    (spelled : SpellsDocument SpellsResponse body.toList { data := some species, errors := [] }) :
    decode body = .ok (species.map fun row =>
      { id := row.id
        labels := row.names.filterMap fun name =>
          name.language.map fun language => { language, text := name.name } }) := by
  rw [decode, read_spelled spelled]
  rfl

/-- A pair of halves, a name without a language, a member of no use, and the lowest id. -/
theorem decode_spelled_unordered :
    decode ("\x7b\"data\":\x7b\"species\":[\x7b" ++
        "\"names\":[\x7b\"name\":\"\\ud83d\\ude00\\n\"," ++ "\"language_id\":9\x7d," ++
        "\x7b\"language_id\":null," ++ "\"name\":\"b\"\x7d]," ++
        "\"id\":-9223372036854775808," ++ "\"x\":[true]\x7d, " ++
        "\x7b\"id\":7\x7d]\x7d,\"errors\":[ ]\x7d") =
      .ok [{ id := -9223372036854775808, labels := [{ language := 9, text := "😀\n" }] },
        { id := 7, labels := [] }] := by
  have high : SpellsUnit ['d', '8', '3', 'd'] 0xd83d :=
    @SpellsUnit.intro 'd' '8' '3' 'd' 13 8 3 13 (by decide) (by decide) (by decide) (by decide)
  have low : SpellsUnit ['d', 'e', '0', '0'] 0xde00 :=
    @SpellsUnit.intro 'd' 'e' '0' '0' 13 14 0 0 (by decide) (by decide) (by decide) (by decide)
  have newline : ('n', '\n') ∈ shortEscapes := by decide
  have space : Blank [' '] := List.forall_mem_singleton.mpr List.mem_cons_self
  have isFirst : SpellsName _ { language := some 9, name := "😀\n" } :=
    @SpellsName.intro _ _ (some (some 9)) "😀\n"
      (.full (spellsItems_next (spellsMember_plain "name" _ (by decide))
        (spellsItems_last (spellsMember_plain "language_id" ['9'] (by decide)))))
      (.once rfl (.value rfl))
      (.once rfl (.intro (.pair high (by decide) low (by decide) (by decide)
        (.short newline .done))))
      (by simp [Member.OthersAny])
  have isSecond : SpellsName _ { language := none, name := "b" } :=
    @SpellsName.intro _ _ (some none) "b"
      (.full (spellsItems_next (spellsMember_plain "language_id" _ (by decide))
        (spellsItems_last (spellsMember_plain "name" _ (by decide)))))
      (.once rfl .null) (.once rfl (.intro (spellsText_plain (by decide))))
      (by simp [Member.OthersAny])
  have isUnknown : IsValue ['[', 't', 'r', 'u', 'e', ']'] :=
    @Written.full .list _ (.one (.element blank_nil .true blank_nil))
  have isRow : SpellsSpecies _ { id := -9223372036854775808, names := [
      { language := some 9, name := "😀\n" }, { language := none, name := "b" }] } :=
    @SpellsSpecies.intro _ _ _ (some _)
      (.full (spellsItems_next (spellsMember_plain "names" _ (by decide))
        (spellsItems_next (spellsMember_plain "id" _ (by decide))
          (spellsItems_last (spellsMember_plain "x" ['[', 't', 'r', 'u', 'e', ']'] (by decide))))))
      (.once rfl rfl)
      (.once rfl (.full (spellsItems_next isFirst (spellsItems_last isSecond))))
      (by simp [Member.OthersAny, isUnknown])
  have isRow' : SpellsSpecies _ { id := 7, names := [] } :=
    @SpellsSpecies.intro _ _ _ none
      (.full (spellsItems_last (spellsMember_plain "id" ['7'] (by decide))))
      (.once rfl rfl) (.absent rfl) (by simp [Member.OthersAny])
  have isData : SpellsData _ _ :=
    .intro (.full (spellsItems_last (spellsMember_plain "species" _ (by decide))))
      (.once rfl (.full (spellsItems_next isRow (.one space isRow' blank_nil))))
      (by simp [Member.OthersAny])
  have isResponse : SpellsResponse _ { data := some _, errors := [] } :=
    @SpellsResponse.intro _ _ (some (some _)) (some [])
      (.full (spellsItems_next (spellsMember_plain "data" _ (by decide))
        (spellsItems_last (spellsMember_plain "errors" _ (by decide)))))
      (.once rfl (.value isData))
      (.once rfl (.empty space))
      (by simp [Member.OthersAny])
  refine @decode_spelled _
    [{ id := -9223372036854775808, names := [
        { language := some 9, name := "😀\n" }, { language := none, name := "b" }] },
      { id := 7, names := [] }] ?_
  refine (SpellsDocument.bare isResponse).of_eq ?_
  simp only [String.toList_append]
  decide +kernel

end SpeciesBrowser.Graphql
