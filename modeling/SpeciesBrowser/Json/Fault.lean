import SpeciesBrowser.Text.Quoted

/-!
# What can be wrong with a document

A fault has a cause and a place. The place is kept as the text that was still unread
when the fault was noticed, and the bytes of it that had been taken already; only a
report counts lines and columns, and it counts columns in bytes.
-/

namespace SpeciesBrowser.Json

/-- What stands where something else was expected. -/
inductive Found where
  | null
  | bool (value : Bool)
  | integer (value : Int)
  | fraction (written : String)
  | text (value : List Char)
  | sequence
  | map
deriving DecidableEq, Repr

namespace Found

def describe : Found → String
  | .null => "null"
  | .bool value => s!"boolean `{value}`"
  | .integer value => s!"integer `{value}`"
  | .fraction written => s!"floating point `{written}`"
  | .text value => "string " ++ String.ofList (Text.quote value)
  | .sequence => "sequence"
  | .map => "map"

end Found

inductive Expected where
  | record (name : String)
  | sequence
  | text
  | integer
deriving DecidableEq, Repr

namespace Expected

def describe : Expected → String
  | .record name => s!"struct {name}"
  | .sequence => "a sequence"
  | .text => "a string"
  | .integer => "i64"

end Expected

inductive Cause where
  | endInValue
  | endInList
  | endInObject
  | endInText
  | expectedColon
  | expectedCommaOrListEnd
  | expectedCommaOrObjectEnd
  | expectedWord
  | expectedValue
  | invalidEscape
  | invalidNumber
  | numberOutOfRange
  | controlCharacter
  | keyNotText
  | loneSurrogate
  | hexEscapeCutShort
  | trailingComma
  | trailingCharacters
  | missingField (name : String)
  | duplicateField (name : String)
  | wrongType (found : Found) (expected : Expected)
  | integerTooLarge (value : Int)
  | wrongLength (given : Nat) (record : String) (count : Nat)
deriving DecidableEq, Repr

namespace Cause

def message : Cause → String
  | .endInValue => "EOF while parsing a value"
  | .endInList => "EOF while parsing a list"
  | .endInObject => "EOF while parsing an object"
  | .endInText => "EOF while parsing a string"
  | .expectedColon => "expected `:`"
  | .expectedCommaOrListEnd => "expected `,` or `]`"
  | .expectedCommaOrObjectEnd => "expected `,` or `\x7d`"
  | .expectedWord => "expected ident"
  | .expectedValue => "expected value"
  | .invalidEscape => "invalid escape"
  | .invalidNumber => "invalid number"
  | .numberOutOfRange => "number out of range"
  | .controlCharacter =>
      "control character (\\u0000-\\u001F) found while parsing a string"
  | .keyNotText => "key must be a string"
  | .loneSurrogate => "lone leading surrogate in hex escape"
  | .hexEscapeCutShort => "unexpected end of hex escape"
  | .trailingComma => "trailing comma"
  | .trailingCharacters => "trailing characters"
  | .missingField name => s!"missing field `{name}`"
  | .duplicateField name => s!"duplicate field `{name}`"
  | .wrongType found expected =>
      "invalid type: " ++ found.describe ++ ", expected " ++ expected.describe
  | .integerTooLarge value => s!"invalid value: integer `{value}`, expected i64"
  | .wrongLength given record count =>
      s!"invalid length {given}, expected struct {record} with {count} " ++
        (if count = 1 then "element" else "elements")

end Cause

structure Fault where
  cause : Cause
  unread : List Char
  taken : Nat := 0
deriving DecidableEq, Repr

def byteCount : List Char → Nat
  | [] => 0
  | symbol :: rest => symbol.utf8Size + byteCount rest

/-- The line, counted from one, and the byte in it that a number of bytes leads to. -/
def placeAfter (line column : Nat) : Nat → List Char → Nat × Nat
  | _, [] => (line, column)
  | 0, _ => (line, column)
  | bytes + 1, symbol :: rest =>
      if symbol = '\n' then placeAfter (line + 1) 0 bytes rest
      else if bytes + 1 < symbol.utf8Size then (line, column + bytes + 1)
      else placeAfter line (column + symbol.utf8Size) (bytes + 1 - symbol.utf8Size) rest

namespace Fault

/-- The line and the column of a fault in the document it was found in. -/
def place (fault : Fault) (document : List Char) : Nat × Nat :=
  placeAfter 1 0 (byteCount document - byteCount fault.unread + fault.taken) document

def report (fault : Fault) (document : List Char) : String :=
  let (line, column) := fault.place document
  fault.cause.message ++ s!" at line {line} column {column}"

end Fault

end SpeciesBrowser.Json
