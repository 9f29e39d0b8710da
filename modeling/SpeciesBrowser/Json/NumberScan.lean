import SpeciesBrowser.Decimal.Shortest
import SpeciesBrowser.Json.Scan
import SpeciesBrowser.Text.Numeral

/-!
# Numbers in a document

A number without fraction and exponent that fits a machine word is an integer. All
others, and minus zero, are doubles: as many leading digits as fit a word are taken
as an integer and scaled by one power of ten.
-/

namespace SpeciesBrowser.Json

inductive Number where
  | integer (value : Int)
  | double (bits : UInt64)
deriving DecidableEq, Repr

/-! ## Runs of digits -/

def dropDigits (text : List Char) : List Char := text.dropWhile isDigit

def digitRun (text : List Char) : Nat := (text.takeWhile isDigit).length

def startsWithDigit : List Char → Bool
  | symbol :: _ => isDigit symbol
  | [] => false

/-- Read digits onto a value for as long as it stays in a word, and count them. -/
def gatherDigits (value count : Nat) : List Char → Nat × Nat × List Char
  | [] => (value, count, [])
  | symbol :: rest =>
      if isDigit symbol && value * 10 + digitValue symbol ≤ maxWord then
        gatherDigits (value * 10 + digitValue symbol) (count + 1) rest
      else (value, count, symbol :: rest)

theorem dropDigits_length_le (text : List Char) : (dropDigits text).length ≤ text.length := by
  induction text with
  | nil => simp [dropDigits]
  | cons symbol rest ih =>
      by_cases h : isDigit symbol = true
      · simp only [dropDigits, List.dropWhile_cons, h, if_true, List.length_cons] at ih ⊢
        omega
      · simp [dropDigits, h]

theorem gatherDigits_length_le (value count : Nat) (text : List Char) :
    (gatherDigits value count text).2.2.length ≤ text.length := by
  induction text generalizing value count with
  | nil => simp [gatherDigits]
  | cons symbol rest ih =>
      unfold gatherDigits
      split
      · have := ih (value * 10 + digitValue symbol) (count + 1)
        simp only [List.length_cons]
        omega
      · exact Nat.le_refl _

/-! ## Doubles -/

def powerOfTen (exponent : Nat) : Float := Float.ofScientific 1 false exponent

/-- The double nearest to a word, scaled down by a power of ten. -/
def scaleDown (value : Float) (exponent : Nat) : Float :=
  if exponent ≤ 308 then value / powerOfTen exponent
  else if value == 0 then value
  else scaleDown (value / powerOfTen 308) (exponent - 308)
termination_by exponent

/-- Scale a word by a power of ten; there is no double beyond the greatest. -/
def scale? (significand : Nat) (exponent : Int) : Option Float :=
  let value := (UInt64.ofNat significand).toFloat
  if exponent < 0 then some (scaleDown value exponent.natAbs)
  else if 308 < exponent then if significand = 0 then some value else none
  else
    let scaled := value * powerOfTen exponent.toNat
    if scaled.isInf then none else some scaled

def signed (negative : Bool) (value : Float) : Number :=
  .double (if negative then -value else value).toBits

def integerNumber (negative : Bool) (significand : Nat) : Number :=
  if negative then
    if significand = 0 ∨ Text.signedSpan < significand then
      signed true (UInt64.ofNat significand).toFloat
    else .integer (-significand)
  else .integer significand

/-- The written form of a double: places before and after the point while the first
digit stands between `10 ^ -5` and `10 ^ 15`, and an exponent otherwise. -/
def writeDouble (bits : UInt64) : String :=
  let sign := if bits.toNat < Text.signedSpan then "" else "-"
  if bits.toNat % Text.signedSpan = 0 then sign ++ "0.0"
  else
    let decimal := Decimal.shortest (Decimal.Binary.ofBits bits)
    let all := Nat.toDigits 10 decimal.digits
    let power := decimal.exponent + (all.length - 1 : Int)
    let digits := (all.reverse.dropWhile (· == '0')).reverse
    let body :=
      if -5 ≤ power ∧ power ≤ 15 then
        if power < 0 then
          ['0', '.'] ++ List.replicate (power.natAbs - 1) '0' ++ digits
        else
          let whole := digits.take (power.toNat + 1)
          let places := digits.drop (power.toNat + 1)
          whole ++ List.replicate (power.toNat + 1 - whole.length) '0' ++
            '.' :: (if places.isEmpty then ['0'] else places)
      else
        let places := digits.drop 1
        digits.take 1 ++ (if places.isEmpty then [] else '.' :: places) ++
          'e' :: (if power < 0 then '-' else '+') :: Nat.toDigits 10 power.natAbs
    sign ++ String.ofList body

/-! ## Reading -/

/-- What has been read of a number so far. -/
structure Mantissa where
  negative : Bool
  significand : Nat
  exponent : Int

namespace Mantissa

def finish (mantissa : Mantissa) (rest : List Char) (h : rest.length < bound) :
    Result bound Number :=
  match scale? mantissa.significand mantissa.exponent with
  | some value => .ok ⟨signed mantissa.negative value, rest, h⟩
  | none => faultAt .numberOutOfRange rest

/-- Read the digits of an exponent onto its value; an exponent too large for 31 bits makes
the number zero or too large at once. -/
def exponentDigits (mantissa : Mantissa) (negative : Bool) (value : Nat) :
    (rest : List Char) → rest.length < bound → Result bound Number
  | [], h => finish ⟨mantissa.negative, mantissa.significand,
      mantissa.exponent + (if negative then -(value : Int) else value)⟩ [] h
  | symbol :: rest, h =>
      if isDigit symbol then
        let value := value * 10 + digitValue symbol
        if 0x80000000 ≤ value then
          if mantissa.significand ≠ 0 ∧ !negative then faultAt .numberOutOfRange rest
          else .ok ⟨signed mantissa.negative 0, dropDigits rest, by
            have := dropDigits_length_le rest
            simp only [List.length_cons] at h
            omega⟩
        else exponentDigits mantissa negative value rest
          (by simp only [List.length_cons] at h; omega)
      else finish ⟨mantissa.negative, mantissa.significand,
        mantissa.exponent + (if negative then -(value : Int) else value)⟩ (symbol :: rest) h

/-- Read an exponent after its letter and sign. -/
def unsignedExponent (mantissa : Mantissa) (negative : Bool) :
    (rest : List Char) → rest.length < bound → Result bound Number
  | [], _ => faultAt .endInValue []
  | symbol :: rest, h =>
      if isDigit symbol then
        mantissa.exponentDigits negative (digitValue symbol) rest
          (by simp only [List.length_cons] at h; omega)
      else faultAfter .invalidNumber 1 (symbol :: rest)

/-- Read an exponent after its letter. -/
def exponentPart (mantissa : Mantissa) :
    (rest : List Char) → rest.length < bound → Result bound Number
  | '+' :: rest, h => mantissa.unsignedExponent false rest
      (by simp only [List.length_cons] at h; omega)
  | '-' :: rest, h => mantissa.unsignedExponent true rest
      (by simp only [List.length_cons] at h; omega)
  | rest, h => mantissa.unsignedExponent false rest h

/-- Go on with an exponent if there is one. -/
def maybeExponent (mantissa : Mantissa) :
    (rest : List Char) → rest.length < bound → Result bound Number
  | symbol :: rest, h =>
      if symbol = 'e' ∨ symbol = 'E' then
        mantissa.exponentPart rest (by simp only [List.length_cons] at h; omega)
      else mantissa.finish (symbol :: rest) h
  | [], h => mantissa.finish [] h

/-- Read a fraction after its point; digits that no longer fit the word are dropped. -/
def fraction (mantissa : Mantissa) (rest : List Char) (h : rest.length < bound) :
    Result bound Number :=
  let gathered := gatherDigits mantissa.significand 0 rest
  have le := gatherDigits_length_le mantissa.significand 0 rest
  let mantissa : Mantissa :=
    ⟨mantissa.negative, gathered.1, mantissa.exponent - gathered.2.1⟩
  if startsWithDigit gathered.2.2 then
    mantissa.maybeExponent (dropDigits gathered.2.2)
      (Nat.lt_of_le_of_lt (Nat.le_trans (dropDigits_length_le _) le) h)
  else if gathered.2.1 = 0 then
    if gathered.2.2.isEmpty then faultAt .endInValue [] else faultOf .invalidNumber gathered.2.2
  else mantissa.maybeExponent gathered.2.2 (Nat.lt_of_le_of_lt le h)

end Mantissa

/-- Go on after the digits before the point. -/
def afterWhole (negative : Bool) (significand : Nat) (rest : List Char)
    (h : rest.length < bound) : Result bound Number :=
  if startsWithDigit rest then
    have shorter : (dropDigits rest).length < bound :=
      Nat.lt_of_le_of_lt (dropDigits_length_le rest) h
    let mantissa : Mantissa := ⟨negative, significand, digitRun rest⟩
    match match_rest : dropDigits rest with
    | '.' :: places => mantissa.fraction places
        (by rw [match_rest, List.length_cons] at shorter; omega)
    | rest => mantissa.maybeExponent rest (by rw [match_rest] at shorter; exact shorter)
  else match rest, h with
    | '.' :: places, h => Mantissa.fraction ⟨negative, significand, 0⟩ places
        (by simp only [List.length_cons] at h; omega)
    | symbol :: rest, h =>
        if symbol = 'e' ∨ symbol = 'E' then
          Mantissa.exponentPart ⟨negative, significand, 0⟩ rest
            (by simp only [List.length_cons] at h; omega)
        else .ok ⟨integerNumber negative significand, symbol :: rest, h⟩
    | [], h => .ok ⟨integerNumber negative significand, [], h⟩

/-- Read a number after its sign. A leading zero stands alone. -/
def readUnsigned (negative : Bool) : Reader Number := fun text =>
  match text with
  | [] => faultAt .endInValue []
  | symbol :: rest =>
      if symbol = '0' then
        if startsWithDigit rest then faultOf .invalidNumber rest
        else afterWhole negative 0 rest (length_lt_cons symbol rest)
      else if isDigit symbol then
        let gathered := gatherDigits (digitValue symbol) 1 rest
        have le := gatherDigits_length_le (digitValue symbol) 1 rest
        afterWhole negative gathered.1 gathered.2.2
          (by simp only [List.length_cons]; exact Nat.lt_succ_of_le le)
      else faultAfter .invalidNumber 1 (symbol :: rest)

def readNumber : Reader Number := fun text =>
  match text with
  | '-' :: rest => widen (readUnsigned true rest) (length_le_cons '-' rest)
  | text => readUnsigned false text

/-! ## Passing over -/

def skipDigitRun : (rest : List Char) → rest.length < bound → Result bound Unit :=
  fun rest h => .ok ⟨(), dropDigits rest, Nat.lt_of_le_of_lt (dropDigits_length_le rest) h⟩

def skipExponentDigits : (rest : List Char) → rest.length < bound → Result bound Unit
  | [], _ => faultAt .invalidNumber []
  | symbol :: rest, h =>
      if isDigit symbol then skipDigitRun rest (by simp only [List.length_cons] at h; omega)
      else faultAfter .invalidNumber 1 (symbol :: rest)

def skipExponent : (rest : List Char) → rest.length < bound → Result bound Unit
  | '+' :: rest, h => skipExponentDigits rest (by simp only [List.length_cons] at h; omega)
  | '-' :: rest, h => skipExponentDigits rest (by simp only [List.length_cons] at h; omega)
  | rest, h => skipExponentDigits rest h

def skipMaybeExponent : (rest : List Char) → rest.length < bound → Result bound Unit
  | symbol :: rest, h =>
      if symbol = 'e' ∨ symbol = 'E' then
        skipExponent rest (by simp only [List.length_cons] at h; omega)
      else .ok ⟨(), symbol :: rest, h⟩
  | [], h => .ok ⟨(), [], h⟩

def skipAfterWhole : (rest : List Char) → rest.length < bound → Result bound Unit
  | '.' :: places, h =>
      if startsWithDigit places then
        skipMaybeExponent (dropDigits places) (by
          have := dropDigits_length_le places
          simp only [List.length_cons] at h
          omega)
      else faultOf .invalidNumber places
  | rest, h => skipMaybeExponent rest h

/-- Pass over a number after its sign; its size does not matter. -/
def skipUnsigned : Reader Unit := fun text =>
  match text with
  | [] => faultAt .invalidNumber []
  | symbol :: rest =>
      if symbol = '0' then
        if startsWithDigit rest then faultOf .invalidNumber rest
        else skipAfterWhole rest (length_lt_cons symbol rest)
      else if isDigit symbol then
        skipAfterWhole (dropDigits rest) (by
          have := dropDigits_length_le rest
          simp only [List.length_cons]
          omega)
      else faultAfter .invalidNumber 1 (symbol :: rest)

end SpeciesBrowser.Json
