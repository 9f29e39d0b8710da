import SpeciesBrowser.Json.Scan

/-!
# Strings in a document

A string is read after its opening quote. Characters may be written as escapes, and
characters beyond the basic plane as two of them, a high and a low half. A string
that is only passed over is held to less: its halves need not match.
-/

namespace SpeciesBrowser.Json

def hexValue? (symbol : Char) : Option Nat :=
  if '0' ≤ symbol ∧ symbol ≤ '9' then some (symbol.toNat - '0'.toNat)
  else if 'a' ≤ symbol ∧ symbol ≤ 'f' then some (symbol.toNat - 'a'.toNat + 10)
  else if 'A' ≤ symbol ∧ symbol ≤ 'F' then some (symbol.toNat - 'A'.toNat + 10)
  else none

def hexUnit? : List Char → Option (Nat × List Char)
  | a :: b :: c :: d :: rest => do
      let a ← hexValue? a
      let b ← hexValue? b
      let c ← hexValue? c
      let d ← hexValue? d
      return (((a * 16 + b) * 16 + c) * 16 + d, rest)
  | _ => none

/-- Read four hexadecimal digits. Four bytes are taken even if they are none. -/
def readHex : Reader Nat := fun text =>
  match h : hexUnit? text with
  | some (unit, rest) => .ok ⟨unit, rest, by
      unfold hexUnit? at h
      split at h
      · simp only [Option.bind_eq_bind, Option.bind_eq_some_iff] at h
        obtain ⟨_, _, _, _, _, _, _, _, equal⟩ := h
        cases equal
        simp only [List.length_cons]
        omega
      · cases h⟩
  | none =>
      if byteCount (text.take 4) < 4 then faultAt .endInText []
      else faultAfter .invalidEscape 4 text

def isHighHalf (unit : Nat) : Bool := 0xd800 ≤ unit && unit ≤ 0xdbff

def isLowHalf (unit : Nat) : Bool := 0xdc00 ≤ unit && unit ≤ 0xdfff

def joinHalves (high low : Nat) : Char :=
  Char.ofNat (0x10000 + (high - 0xd800) * 0x400 + (low - 0xdc00))

/-- Read the low half that must follow a high one. -/
def readLowHalf (high : Nat) : Reader Char := fun text =>
  match text with
  | [] => faultAt .endInText []
  | '\\' :: [] => faultAt .endInText []
  | '\\' :: 'u' :: rest =>
      andThen (readHex rest) fun low rest' shorter =>
        if isLowHalf low then
          .ok ⟨joinHalves high low, rest', by simp only [List.length_cons]; omega⟩
        else faultAt .loneSurrogate rest'
  | '\\' :: rest => faultAfter .hexEscapeCutShort 1 rest
  | text => faultAfter .hexEscapeCutShort 1 text

/-- Read a character that is given by its number. -/
def readUnicode : Reader Char := fun text =>
  andThen (readHex text) fun unit rest shorter =>
    if isLowHalf unit then faultAt .loneSurrogate rest
    else if isHighHalf unit then widen (readLowHalf unit rest) (length_le_of_shorter shorter)
    else .ok ⟨Char.ofNat unit, rest, shorter⟩

/-- The character that a letter after a backslash stands for. -/
def shortEscape? : Char → Option Char
  | '"' => some '"'
  | '\\' => some '\\'
  | '/' => some '/'
  | 'b' => some '\x08'
  | 'f' => some '\x0c'
  | 'n' => some '\n'
  | 'r' => some '\r'
  | 't' => some '\t'
  | _ => none

/-- Read what follows a backslash. -/
def readEscape : Reader Char := fun text =>
  match text with
  | [] => faultAt .endInText []
  | symbol :: rest =>
      if symbol = 'u' then
        widen (readUnicode rest) (length_le_cons symbol rest)
      else match shortEscape? symbol with
        | some meant => .ok ⟨meant, rest, length_lt_cons symbol rest⟩
        | none => faultAfter .invalidEscape 1 (symbol :: rest)

/-- Read a string up to and with its closing quote. -/
def readString (text : List Char) : Result text.length (List Char) :=
  match text with
  | [] => faultAt .endInText []
  | '"' :: rest => .ok ⟨[], rest, length_lt_cons '"' rest⟩
  | '\\' :: rest =>
      andThen (readEscape rest) fun meant rest' shorter =>
        andThen (readString rest') fun later rest'' shorter' =>
          .ok ⟨meant :: later, rest'', by simp only [List.length_cons]; omega⟩
  | symbol :: rest =>
      if symbol < ' ' then faultAt .controlCharacter rest
      else
        andThen (readString rest) fun later rest' shorter =>
          .ok ⟨symbol :: later, rest', by simp only [List.length_cons]; omega⟩
termination_by text.length
decreasing_by all_goals (simp only [List.length_cons]; omega)

/-- Pass over what follows a backslash. -/
def skipEscape : Reader Unit := fun text =>
  match text with
  | [] => faultAt .endInText []
  | symbol :: rest =>
      if symbol = 'u' then
        widen (mapValue (fun _ => ()) (readHex rest)) (length_le_cons symbol rest)
      else match shortEscape? symbol with
        | some _ => .ok ⟨(), rest, length_lt_cons symbol rest⟩
        | none => faultAfter .invalidEscape 1 (symbol :: rest)

/-- Pass over a string up to and with its closing quote. -/
def skipString (text : List Char) : Result text.length Unit :=
  match text with
  | [] => faultAt .endInText []
  | '"' :: rest => .ok ⟨(), rest, length_lt_cons '"' rest⟩
  | '\\' :: rest =>
      andThen (skipEscape rest) fun _ rest' shorter =>
        widen (skipString rest') (by simp only [List.length_cons]; omega)
  | symbol :: rest =>
      if symbol < ' ' then faultAt .controlCharacter (symbol :: rest)
      else widen (skipString rest) (length_le_cons symbol rest)
termination_by text.length
decreasing_by all_goals (simp only [List.length_cons]; omega)

end SpeciesBrowser.Json
