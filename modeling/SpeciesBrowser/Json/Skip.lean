import SpeciesBrowser.Json.NumberScan
import SpeciesBrowser.Json.StringScan

/-!
# Passing over a value

A value that nobody asks for is checked for its form only. The lists and objects that
are still open stand in a list, the innermost first, so values may be nested to any
depth.
-/

namespace SpeciesBrowser.Json

/-- What is open around a value. -/
inductive Frame where
  | list
  | object
deriving DecidableEq, Repr

namespace Frame

def endCause : Frame → Cause
  | .list => .endInList
  | .object => .endInObject

def separatorCause : Frame → Cause
  | .list => .expectedCommaOrListEnd
  | .object => .expectedCommaOrObjectEnd

def closing : Frame → Char
  | .list => ']'
  | .object => '\x7d'

end Frame

/-- Read the colon between a key and its value. -/
def readColon : Reader Unit := fun text =>
  match h : skipBlanks text with
  | [] => faultAt .endInObject []
  | symbol :: rest =>
      if symbol = ':' then .ok ⟨(), rest, length_lt_of_skipBlanks h⟩
      else faultOf .expectedColon (symbol :: rest)

/-- Pass over a key and its colon. -/
def skipKey : Reader Unit := fun text =>
  match h : skipBlanks text with
  | [] => faultAt .endInObject []
  | symbol :: rest =>
      if symbol = '"' then
        andThen (skipString rest) fun _ rest' shorter =>
          widen (readColon rest') (by
            have := length_lt_of_skipBlanks h
            omega)
      else faultOf .keyNotText (symbol :: rest)

/-- Pass over a scalar whose first character is given. -/
def skipScalar (symbol : Char) (rest : List Char) : Result (rest.length + 1) Unit :=
  let word (letters : List Char) : Result (rest.length + 1) Unit :=
    match h : readLetters letters rest with
    | .ok rest' => .ok ⟨(), rest', Nat.lt_succ_of_le (readLetters_length h)⟩
    | .error fault => .error fault
  if symbol = 'n' then word ['u', 'l', 'l']
  else if symbol = 't' then word ['r', 'u', 'e']
  else if symbol = 'f' then word ['a', 'l', 's', 'e']
  else if symbol = '"' then widen (skipString rest) (Nat.le_succ _)
  else if symbol = '-' then widen (skipUnsigned rest) (Nat.le_succ _)
  else if isDigit symbol then skipUnsigned (symbol :: rest)
  else faultOf .expectedValue (symbol :: rest)

mutual

/-- Pass over the value that is due, and all that is open around it. -/
def skipDue (bound : Nat) (frames : List Frame) (text : List Char) (h : text.length ≤ bound) :
    Result bound Unit :=
  match start : skipBlanks text with
  | [] => faultAt .endInValue []
  | symbol :: rest =>
      have shorter := length_lt_of_skipBlanks start
      if symbol = '[' then
        match opened : skipBlanks rest with
        | [] => faultAt .endInList []
        | inner :: rest' =>
            have shorter' := length_lt_of_skipBlanks opened
            if inner = ']' then skipEnded bound frames rest' (by omega)
            else skipDue bound (.list :: frames) rest (by omega)
      else if symbol = '\x7b' then
        match opened : skipBlanks rest with
        | [] => faultAt .endInObject []
        | inner :: rest' =>
            have shorter' := length_lt_of_skipBlanks opened
            if inner = '\x7d' then skipEnded bound frames rest' (by omega)
            else
              andThen (skipKey rest) fun _ value shorter'' =>
                skipDue bound (.object :: frames) value (by omega)
      else
        andThen (skipScalar symbol rest) fun _ rest' shorter' =>
          skipEnded bound frames rest' (by omega)
termination_by text.length

/-- Pass over what is still open once a value has ended. -/
def skipEnded (bound : Nat) (frames : List Frame) (text : List Char) (h : text.length < bound) :
    Result bound Unit :=
  match frames with
  | [] => .ok ⟨(), text, h⟩
  | frame :: outer =>
      match next : skipBlanks text with
      | [] => faultAt frame.endCause []
      | symbol :: rest =>
          have shorter := length_lt_of_skipBlanks next
          if symbol = ',' then
            match frame with
            | .list => skipDue bound (.list :: outer) rest (by omega)
            | .object =>
                andThen (skipKey rest) fun _ value shorter' =>
                  skipDue bound (.object :: outer) value (by omega)
          else if symbol = frame.closing then skipEnded bound outer rest (by omega)
          else faultOf frame.separatorCause (symbol :: rest)
termination_by text.length

end

/-- Pass over one value. -/
def skipValue : Reader Unit := fun text => skipDue text.length [] text (Nat.le_refl _)

end SpeciesBrowser.Json
