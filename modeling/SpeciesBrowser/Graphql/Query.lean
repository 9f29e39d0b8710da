import SpeciesBrowser.Json.Value
import SpeciesBrowser.Listing

/-!
# The query of a page

The text of the query never changes; the window and the languages go with it as
variables. Names come back in the asked languages only.
-/

namespace SpeciesBrowser.Graphql

def speciesQuery : String :=
"query SpeciesList($limit: Int!, $offset: Int!, $languages: [Int!]) \x7b
  species: pokemon_v2_pokemonspecies(limit: $limit, offset: $offset, order_by: \x7bid: asc\x7d) \x7b
    id
    names: pokemon_v2_pokemonspeciesnames(where: \x7blanguage_id: \x7b_in: $languages\x7d\x7d) \x7b
      language_id
      name
    \x7d
  \x7d
\x7d"

def queryDocument (query : Query) (languages : List Int64) : Json.Value :=
  .object
    [("query", .text speciesQuery),
     ("variables", .object
       [("languages", .list (languages.map fun language => .integer language.toInt)),
        ("limit", .integer query.limit.toNat),
        ("offset", .integer query.offset.toNat)])]

def queryBody (query : Query) (languages : List Int64) : String :=
  String.ofList (Json.writeValue (queryDocument query languages))

end SpeciesBrowser.Graphql
