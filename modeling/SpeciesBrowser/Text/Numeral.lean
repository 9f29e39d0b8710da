import SpeciesBrowser.Page

/-!
# Decimal numerals

A numeral is an optional sign and at least one ASCII digit, and nothing else. Its
value must fit the type it is read for; a minus sign belongs to signed types only.
Digits are looked at from the left, so a numeral is too large as soon as the digits
read so far are.
-/

namespace SpeciesBrowser.Text

inductive NumeralError where
  | empty
  | invalidDigit
  | tooLarge
  | tooSmall
deriving DecidableEq, Repr

namespace NumeralError

def message : NumeralError → String
  | .empty => "cannot parse integer from empty string"
  | .invalidDigit => "invalid digit found in string"
  | .tooLarge => "number too large to fit in target type"
  | .tooSmall => "number too small to fit in target type"

end NumeralError

def digit? (symbol : Char) : Option Nat :=
  if '0' ≤ symbol ∧ symbol ≤ '9' then some (symbol.toNat - '0'.toNat) else none

/-- Read digits after a value; `beyond` is the complaint about a value over the limit. -/
def readDigits (limit : Nat) (beyond : NumeralError) :
    Nat → List Char → Except NumeralError Nat
  | value, [] => .ok value
  | value, symbol :: rest =>
      match digit? symbol with
      | none => .error .invalidDigit
      | some digit =>
          let value := value * 10 + digit
          if limit < value then .error beyond else readDigits limit beyond value rest

/-- Digits, of which there must be one at least. -/
def readMagnitude (limit : Nat) (beyond : NumeralError) :
    List Char → Except NumeralError Nat
  | [] => .error .invalidDigit
  | digits => readDigits limit beyond 0 digits

def readNat (limit : Nat) : List Char → Except NumeralError Nat
  | [] => .error .empty
  | '+' :: digits => readMagnitude limit .tooLarge digits
  | digits => readMagnitude limit .tooLarge digits

def readInt (lowest highest : Nat) : List Char → Except NumeralError Int
  | [] => .error .empty
  | '+' :: digits => (readMagnitude highest .tooLarge digits).map Int.ofNat
  | '-' :: digits => (readMagnitude lowest .tooSmall digits).map fun value => -Int.ofNat value
  | digits => (readMagnitude highest .tooLarge digits).map Int.ofNat

def readWord (text : List Char) : Except NumeralError UInt64 :=
  (readNat maxWord text).map UInt64.ofNat

def readHalfWord (text : List Char) : Except NumeralError UInt32 :=
  (readNat (UInt32.size - 1) text).map UInt32.ofNat

/-- How many signed 64-bit numbers there are below zero. -/
def signedSpan : Nat := UInt64.size / 2

def readSigned (text : List Char) : Except NumeralError Int64 :=
  (readInt signedSpan (signedSpan - 1) text).map Int64.ofInt

end SpeciesBrowser.Text
