import SpeciesBrowser.Json.Skip

/-!
# Values of a known type

Readers for integers, strings, values that may be null, and sequences. What stands
in the place of such a value is named in the fault: scalars are read first, lists and
objects are left where they are.
-/

namespace SpeciesBrowser.Json

/-- Read a scalar, to say what was found; a list or an object is only looked at. -/
def readFound (symbol : Char) (rest : List Char) : Except Fault (Found × List Char) :=
  let word (letters : List Char) (found : Found) : Except Fault (Found × List Char) :=
    (readLetters letters rest).map fun rest' => (found, rest')
  if symbol = 'n' then word ['u', 'l', 'l'] .null
  else if symbol = 't' then word ['r', 'u', 'e'] (.bool true)
  else if symbol = 'f' then word ['a', 'l', 's', 'e'] (.bool false)
  else if symbol = '"' then
    andThen (readString rest) fun value rest' _ => .ok (.text value, rest')
  else if symbol = '-' ∨ isDigit symbol = true then
    andThen (readNumber (symbol :: rest)) fun number rest' _ =>
      match number with
      | .integer value => .ok (.integer value, rest')
      | .double bits => .ok (.fraction (writeDouble bits), rest')
  else if symbol = '[' then .ok (.sequence, symbol :: rest)
  else if symbol = '\x7b' then .ok (.map, symbol :: rest)
  else faultOf .expectedValue (symbol :: rest)

/-- The fault of a value that is not of the expected type. -/
def unexpected (expected : Expected) (symbol : Char) (rest : List Char) : Except Fault α := do
  let (found, rest') ← readFound symbol rest
  faultAt (.wrongType found expected) rest'

def readInteger : Reader Int64 := fun text =>
  match h : skipBlanks text with
  | [] => faultAt .endInValue []
  | symbol :: rest =>
      if symbol = '-' ∨ isDigit symbol = true then
        andThen (readNumber (symbol :: rest)) fun number rest' shorter =>
          match number with
          | .integer value =>
              if value < Text.signedSpan then
                .ok ⟨Int64.ofInt value, rest', length_lt_behind_blanks h shorter⟩
              else faultAt (.integerTooLarge value) rest'
          | .double bits => faultAt (.wrongType (.fraction (writeDouble bits)) .integer) rest'
      else unexpected .integer symbol rest

def readText : Reader (List Char) := fun text =>
  match h : skipBlanks text with
  | [] => faultAt .endInValue []
  | symbol :: rest =>
      if symbol = '"' then
        widen (readString rest) (length_le_of_skipBlanks h)
      else unexpected .text symbol rest

/-- Read a value or null. -/
def readOptional (reader : Reader α) : Reader (Option α) := fun text =>
  match h : skipBlanks text with
  | 'n' :: rest =>
      match letters : readLetters ['u', 'l', 'l'] rest with
      | .ok rest' => .ok ⟨none, rest', by
          have := length_lt_of_skipBlanks h
          have := readLetters_length letters
          omega⟩
      | .error fault => .error fault
  | _ => mapValue some (reader text)

/-- Read what is left of a sequence after an element. -/
def readElements (reader : Reader α) (text : List Char) : Result text.length (List α) :=
  match h : skipBlanks text with
  | [] => faultAt .endInList []
  | symbol :: rest =>
      have shorter := length_lt_of_skipBlanks h
      if symbol = ']' then .ok ⟨[], rest, shorter⟩
      else if symbol = ',' then
        match skipBlanks rest with
        | [] => faultAt .endInValue []
        | ']' :: rest' => faultOf .trailingComma (']' :: rest')
        | _ =>
            andThen (reader rest) fun value rest' shorter' =>
              andThen (readElements reader rest') fun later rest'' shorter'' =>
                .ok ⟨value :: later, rest'', by omega⟩
      else faultOf .expectedCommaOrListEnd (symbol :: rest)
termination_by text.length

def readSequence (reader : Reader α) : Reader (List α) := fun text =>
  match h : skipBlanks text with
  | [] => faultAt .endInValue []
  | symbol :: rest =>
      have shorter := length_lt_of_skipBlanks h
      if symbol = '[' then
        match opened : skipBlanks rest with
        | [] => faultAt .endInList []
        | inner :: rest' =>
            have shorter' := length_lt_of_skipBlanks opened
            if inner = ']' then .ok ⟨[], rest', by omega⟩
            else
              andThen (reader rest) fun value after shorter'' =>
                andThen (readElements reader after) fun later after' shorter''' =>
                  .ok ⟨value :: later, after', by omega⟩
      else unexpected .sequence symbol rest

end SpeciesBrowser.Json
