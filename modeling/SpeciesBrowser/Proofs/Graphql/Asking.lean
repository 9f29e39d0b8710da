import SpeciesBrowser.Graphql.Query
import SpeciesBrowser.Proofs.Json.Writing

/-!
# What a request asks for

The body of a request is a document with the text of the query and its variables: the languages
that names are asked for in, and the window with its limit and its offset. It says nothing else.
-/

namespace SpeciesBrowser.Graphql

open Json

/-- What the query is asked with. -/
structure Variables where
  query : Query
  languages : List Int64
deriving DecidableEq, Repr

/-- A number in decimal digits. -/
def SpellsNatural (text : List Char) (number : Nat) : Prop := text = decimal number

/-- An object with the variables as its members, and no others. -/
inductive SpellsVariables : List Char → Variables → Prop where
  | intro {text : List Char} {members : List Member} {asked : Variables}
      (object : SpellsObject text members)
      (isLanguages :
        Member.Holds members "languages" (SpellsList SpellsInteger) (some asked.languages))
      (isLimit :
        Member.Holds members "limit" SpellsNatural (some asked.query.limit.toNat))
      (isOffset :
        Member.Holds members "offset" SpellsNatural (some asked.query.offset.toNat))
      (noOthers : ∀ member ∈ members, member.name ∈ ["languages", "limit", "offset"]) :
      SpellsVariables text asked

/-- An object with the text of the query and the variables as its members, and no others. -/
inductive SpellsRequest : List Char → Variables → Prop where
  | intro {text : List Char} {members : List Member} {asked : Variables}
      (object : SpellsObject text members)
      (isQuery : Member.Holds members "query" SpellsString (some speciesQuery))
      (isVariables : Member.Holds members "variables" SpellsVariables (some asked))
      (noOthers : ∀ member ∈ members, member.name ∈ ["query", "variables"]) :
      SpellsRequest text asked

theorem spellsNatural_writeValue (number : Nat) :
    SpellsNatural (writeValue (.integer number)) number :=
  writeValue_integer number

theorem spellsInteger_writeValue (value : Int64) :
    SpellsInteger (writeValue (.integer value.toInt)) value :=
  writeValue_integer value.toInt

theorem spellsVariables_writeValue (query : Query) (languages : List Int64) :
    SpellsVariables
      (writeValue (.object
        [("languages", .list (languages.map fun language => .integer language.toInt)),
          ("limit", .integer query.limit.toNat), ("offset", .integer query.offset.toNat)]))
      { query, languages } := by
  have isLanguages := spellsList_writeValue (f := fun language => .integer language.toInt)
    fun language (_ : language ∈ languages) => spellsInteger_writeValue language
  refine .intro (spellsObject_writeValue _) (.once rfl isLanguages)
    (.once rfl (spellsNatural_writeValue query.limit.toNat))
    (.once rfl (spellsNatural_writeValue query.offset.toNat)) ?_
  simp

/-- The document of a query spells the query with its window and its languages. -/
theorem spellsRequest_queryDocument (query : Query) (languages : List Int64) :
    SpellsRequest (writeValue (queryDocument query languages)) { query, languages } := by
  refine .intro (spellsObject_writeValue _) (.once rfl (spellsString_writeText speciesQuery))
    (.once rfl (spellsVariables_writeValue query languages)) ?_
  simp

/-- The body of a request asks for the window in the languages, and for nothing else. -/
theorem spellsRequest_queryBody (query : Query) (languages : List Int64) :
    SpellsDocument SpellsRequest (queryBody query languages).toList { query, languages } := by
  rw [queryBody, String.toList_ofList]
  exact .bare (spellsRequest_queryDocument query languages)

end SpeciesBrowser.Graphql
