import SpeciesBrowser.Page

/-!
# Listings with labels in several languages

An entity has an id and labels, each in one language. A listing is asked for one
window of rows at a time; the answer is either still out, a failure with its
message, or the entities of the window in order.
-/

namespace SpeciesBrowser

structure Label where
  language : Int64
  text : String
deriving DecidableEq, Repr

structure Entity where
  id : Int64
  labels : List Label
deriving DecidableEq, Repr

namespace Entity

/-- The first label in a language; later labels in it are never shown. -/
def labelIn? (entity : Entity) (language : Int64) : Option String :=
  (entity.labels.find? (·.language = language)).map (·.text)

end Entity

/-- The window of a listing that one request asks for. -/
structure Query where
  offset : UInt64
  limit : UInt32
deriving DecidableEq, Repr

namespace Query

/-- The rows of a listing that stand in the window. -/
def window (query : Query) (listing : List α) : List α :=
  (listing.drop query.offset.toNat).take query.limit.toNat

end Query

/-- How many rows a page has, and the languages of its two columns. -/
structure ListConfig where
  pageSize : UInt32 := 50
  primary : Int64 := 1
  secondary : Int64 := 9
deriving DecidableEq, Repr

namespace ListConfig

def query (config : ListConfig) (page : Page) : Query :=
  { offset := page.offset config.pageSize, limit := config.pageSize }

def languages (config : ListConfig) : List Int64 := [config.primary, config.secondary]

end ListConfig

inductive Outcome where
  | pending
  | failed (message : String)
  | loaded (entities : List Entity)
deriving DecidableEq, Repr

namespace Outcome

/-- The answer of a listing that is known in full. -/
def ofListing (listing : List Entity) (query : Query) : Outcome :=
  .loaded (query.window listing)

end Outcome

end SpeciesBrowser
