import SpeciesBrowser.Json.Typed

/-!
# Records

A record is read from an object, with its members in any order and others among them,
or from a list with the fields in their order. Each field is read onto a state that
tells which fields have been given; a field may be given once. At the end the state
is finished into a value, or names the field that is missing.
-/

namespace SpeciesBrowser.Json

structure Field (σ : Type) where
  name : String
  given : σ → Bool
  read : σ → Reader σ
  /-- The state once a list has ended before the field; most fields do not allow that. -/
  absent? : Option (σ → σ) := none

structure RecordShape (σ : Type) (α : Type) where
  name : String
  fields : List (Field σ)
  empty : σ
  /-- The value, or the name of a missing field. -/
  finish : σ → Except String α

namespace RecordShape

def field? (shape : RecordShape σ α) (key : List Char) : Option (Field σ) :=
  shape.fields.find? fun field => field.name.toList = key

def conclude (shape : RecordShape σ α) (state : σ) (rest : List Char) (h : rest.length < bound) :
    Result bound α :=
  match shape.finish state with
  | .ok value => .ok ⟨value, rest, h⟩
  | .error name => faultAt (.missingField name) rest

end RecordShape

/-- Read up to and with the next key of an object, or its closing brace. -/
def readKey (first : Bool) : Reader (Option (List Char)) := fun text =>
  match h : skipBlanks text with
  | [] => faultAt .endInObject []
  | symbol :: rest =>
      have shorter := length_lt_of_skipBlanks h
      if symbol = '\x7d' then .ok ⟨none, rest, shorter⟩
      else if first then
        if symbol = '"' then widen (mapValue some (readString rest)) (length_le_of_shorter shorter)
        else faultOf .keyNotText (symbol :: rest)
      else if symbol = ',' then
        match next : skipBlanks rest with
        | [] => faultAt .endInValue []
        | start :: key =>
            have shorter' := length_lt_of_skipBlanks next
            if start = '"' then
              widen (mapValue some (readString key)) (length_le_of_both_shorter shorter shorter')
            else if start = '\x7d' then faultOf .trailingComma (start :: key)
            else faultOf .keyNotText (start :: key)
      else faultOf .expectedCommaOrObjectEnd (symbol :: rest)

/-- Where a repeated field is noticed: the reader has looked for the end of the object. -/
def afterRepeatedKey (text : List Char) : List Char :=
  match skipBlanks text with
  | '\x7d' :: rest => rest
  | rest => rest

def readMembers (shape : RecordShape σ α) (first : Bool) (state : σ) (text : List Char) :
    Result text.length α :=
  andThen (readKey first text) fun key? rest shorter =>
    match key? with
    | none => shape.conclude state rest shorter
    | some key =>
        match shape.field? key with
        | some field =>
            if field.given state then
              faultAt (.duplicateField field.name) (afterRepeatedKey rest)
            else
              andThen (readColon rest) fun _ value shorter' =>
                andThen (field.read state value) fun state after shorter'' =>
                  widen (readMembers shape false state after) (by omega)
        | none =>
            andThen (readColon rest) fun _ value shorter' =>
              andThen (skipValue value) fun _ after shorter'' =>
                widen (readMembers shape false state after) (by omega)
termination_by text.length

/-- Read the end of a list that holds a whole record. -/
def readRecordEnd (shape : RecordShape σ α) (state : σ) : Reader α := fun text =>
  match h : skipBlanks text with
  | [] => faultAt .endInList []
  | symbol :: rest =>
      if symbol = ']' then shape.conclude state rest (length_lt_of_skipBlanks h)
      else if symbol = ',' then
        match skipBlanks rest with
        | ']' :: rest' => faultOf .trailingComma (']' :: rest')
        | rest' => faultOf .trailingCharacters rest'
      else faultOf .trailingCharacters (symbol :: rest)

/-- Read the fields of a record from a list, after as many as `index` says. -/
def readPlaces (shape : RecordShape σ α) (index : Nat) (state : σ) :
    List (Field σ) → Reader α
  | [] => readRecordEnd shape state
  | field :: fields => fun text =>
      match h : skipBlanks text with
      | [] => faultAt .endInList []
      | symbol :: rest =>
          have shorter := length_lt_of_skipBlanks h
          let element (start : List Char) (le : start.length ≤ text.length) :
              Result text.length α :=
            andThen (field.read state start) fun state after shorter' =>
              widen (readPlaces shape (index + 1) state fields after) (by omega)
          if symbol = ']' then
            match field.absent? with
            | some absent => readPlaces shape (index + 1) (absent state) fields text
            | none => faultAt (.wrongLength index shape.name shape.fields.length) rest
          else if index = 0 then element text (Nat.le_refl _)
          else if symbol = ',' then
            match skipBlanks rest with
            | [] => faultAt .endInValue []
            | ']' :: rest' => faultOf .trailingComma (']' :: rest')
            | _ => element rest (length_le_of_shorter shorter)
          else faultOf .expectedCommaOrListEnd (symbol :: rest)

def readRecord (shape : RecordShape σ α) : Reader α := fun text =>
  match h : skipBlanks text with
  | [] => faultAt .endInValue []
  | symbol :: rest =>
      have le := length_le_of_skipBlanks h
      if symbol = '[' then widen (readPlaces shape 0 shape.empty shape.fields rest) le
      else if symbol = '\x7b' then widen (readMembers shape true shape.empty rest) le
      else unexpected (.record shape.name) symbol rest

/-- Read a text that holds one value and nothing after it. -/
def readDocument (reader : Reader α) (text : List Char) : Except Fault α :=
  andThen (reader text) fun value rest _ =>
    match skipBlanks rest with
    | [] => .ok value
    | rest => faultOf .trailingCharacters rest

end SpeciesBrowser.Json
