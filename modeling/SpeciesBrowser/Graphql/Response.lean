import SpeciesBrowser.Json.Record
import SpeciesBrowser.Listing

/-!
# Answers of the server

The server sends its rows under `data`, or the errors that it met under `errors`. The
first error decides, even beside data. Names without a language are dropped.
-/

namespace SpeciesBrowser.Graphql

open Json

structure NameNode where
  language : Option Int64
  name : String
deriving DecidableEq, Repr

structure SpeciesNode where
  id : Int64
  names : List NameNode
deriving DecidableEq, Repr

structure Response where
  data : Option (List SpeciesNode)
  errors : List String
deriving DecidableEq, Repr

/-! ## Shapes -/

structure NameFields where
  language : Option (Option Int64) := none
  name : Option String := none

def nameShape : RecordShape NameFields NameNode where
  name := "NameNode"
  fields :=
    [{ name := "language_id"
       given := (·.language.isSome)
       read := fun state text =>
         mapValue (fun language => { state with language := some language })
           (readOptional readInteger text) },
     { name := "name"
       given := (·.name.isSome)
       read := fun state text =>
         mapValue (fun name => { state with name := some (String.ofList name) })
           (readText text) }]
  empty := {}
  finish := fun state =>
    match state.name with
    | some name => .ok { language := state.language.getD none, name }
    | none => .error "name"

structure SpeciesFields where
  id : Option Int64 := none
  names : Option (List NameNode) := none

def speciesShape : RecordShape SpeciesFields SpeciesNode where
  name := "SpeciesNode"
  fields :=
    [{ name := "id"
       given := (·.id.isSome)
       read := fun state text =>
         mapValue (fun id => { state with id := some id }) (readInteger text) },
     { name := "names"
       given := (·.names.isSome)
       read := fun state text =>
         mapValue (fun names => { state with names := some names })
           (readSequence (readRecord nameShape) text)
       absent? := some fun state => { state with names := some [] } }]
  empty := {}
  finish := fun state =>
    match state.id with
    | some id => .ok { id, names := state.names.getD [] }
    | none => .error "id"

def dataShape : RecordShape (Option (List SpeciesNode)) (List SpeciesNode) where
  name := "SpeciesData"
  fields :=
    [{ name := "species"
       given := Option.isSome
       read := fun _ text => mapValue some (readSequence (readRecord speciesShape) text) }]
  empty := none
  finish := fun state =>
    match state with
    | some species => .ok species
    | none => .error "species"

def errorShape : RecordShape (Option String) String where
  name := "GraphqlError"
  fields :=
    [{ name := "message"
       given := Option.isSome
       read := fun _ text =>
         mapValue (fun message => some (String.ofList message)) (readText text) }]
  empty := none
  finish := fun state =>
    match state with
    | some message => .ok message
    | none => .error "message"

structure ResponseFields where
  data : Option (Option (List SpeciesNode)) := none
  errors : Option (List String) := none

def responseShape : RecordShape ResponseFields Response where
  name := "GraphqlResponse"
  fields :=
    [{ name := "data"
       given := (·.data.isSome)
       read := fun state text =>
         mapValue (fun data => { state with data := some data })
           (readOptional (readRecord dataShape) text) },
     { name := "errors"
       given := (·.errors.isSome)
       read := fun state text =>
         mapValue (fun errors => { state with errors := some errors })
           (readSequence (readRecord errorShape) text)
       absent? := some fun state => { state with errors := some [] } }]
  empty := {}
  finish := fun state =>
    .ok { data := state.data.getD none, errors := state.errors.getD [] }

/-! ## Entities -/

namespace NameNode

def label? (node : NameNode) : Option Label :=
  node.language.map fun language => { language, text := node.name }

end NameNode

namespace SpeciesNode

def entity (node : SpeciesNode) : Entity :=
  { id := node.id, labels := node.names.filterMap NameNode.label? }

end SpeciesNode

/-- Why a body holds no entities. -/
inductive BodyError where
  | malformed (fault : Fault)
  | reported (message : String)
  | noData
deriving DecidableEq, Repr

namespace BodyError

def message (error : BodyError) (body : String) : String :=
  match error with
  | .malformed fault => fault.report body.toList
  | .reported message => message
  | .noData => "response contained no data"

end BodyError

namespace Response

def read (body : String) : Except Fault Response :=
  readDocument (readRecord responseShape) body.toList

def entities (response : Response) : Except BodyError (List Entity) :=
  match response.errors with
  | message :: _ => .error (.reported message)
  | [] =>
      match response.data with
      | some species => .ok (species.map SpeciesNode.entity)
      | none => .error .noData

end Response

/-- The entities that a body spells. -/
def decode (body : String) : Except BodyError (List Entity) :=
  match Response.read body with
  | .ok response => response.entities
  | .error fault => .error (.malformed fault)

end SpeciesBrowser.Graphql
