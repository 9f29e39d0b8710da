import SpeciesBrowser.Json.Fault

/-!
# Steps through a document

A reader takes some of the text off its front and gives back a value with the rest,
which is shorter; that is carried in the result, so that readers can be put one
after another without counting. Blanks may stand before every token.
-/

namespace SpeciesBrowser.Json

/-- A value and the text after it, which is shorter than a bound. -/
structure Read (bound : Nat) (α : Type) where
  value : α
  rest : List Char
  shorter : rest.length < bound

abbrev Result (bound : Nat) (α : Type) := Except Fault (Read bound α)

/-- A reader for values of one type. -/
abbrev Reader (α : Type) := (text : List Char) → Result text.length α

/-- Go on with the rest of a reading that went well. -/
def andThen (result : Result bound α)
    (next : (value : α) → (rest : List Char) → rest.length < bound → Except Fault β) :
    Except Fault β :=
  match result with
  | .ok ⟨value, rest, shorter⟩ => next value rest shorter
  | .error fault => .error fault

def widen (result : Result bound α) (h : bound ≤ wider) : Result wider α :=
  andThen result fun value rest shorter => .ok ⟨value, rest, Nat.lt_of_lt_of_le shorter h⟩

def mapValue (f : α → β) (result : Result bound α) : Result bound β :=
  andThen result fun value rest shorter => .ok ⟨f value, rest, shorter⟩

/-- The reading went well: it gave this value and left this rest. -/
def Gives (result : Result bound α) (value : α) (rest : List Char) : Prop :=
  ∃ shorter, result = .ok ⟨value, rest, shorter⟩

theorem andThen_of_gives {result : Result bound α} {value : α} {rest : List Char}
    (h : Gives result value rest)
    (next : (value : α) → (rest : List Char) → rest.length < bound → Except Fault β) :
    ∃ shorter, andThen result next = next value rest shorter := by
  obtain ⟨shorter, rfl⟩ := h
  exact ⟨shorter, rfl⟩

theorem widen_of_gives {result : Result bound α} {value : α} {rest : List Char}
    (h : Gives result value rest) (le : bound ≤ wider) : Gives (widen result le) value rest := by
  obtain ⟨shorter, rfl⟩ := h
  exact ⟨Nat.lt_of_lt_of_le shorter le, rfl⟩

theorem mapValue_of_gives {result : Result bound α} {value : α} {rest : List Char}
    (h : Gives result value rest) (f : α → β) : Gives (mapValue f result) (f value) rest := by
  obtain ⟨shorter, rfl⟩ := h
  exact ⟨shorter, rfl⟩

/-- A fault noticed right where the unread text begins. -/
def faultAt (cause : Cause) (unread : List Char) : Except Fault α := .error { cause, unread }

/-- A fault noticed after some bytes of the unread text. -/
def faultAfter (cause : Cause) (taken : Nat) (unread : List Char) : Except Fault α :=
  .error { cause, unread, taken }

/-- A fault of the byte that comes next; at the end there is none to point behind. -/
def faultOf (cause : Cause) (unread : List Char) : Except Fault α :=
  .error { cause, unread, taken := if unread.isEmpty then 0 else 1 }

def isBlank (symbol : Char) : Bool :=
  symbol == ' ' || symbol == '\n' || symbol == '\r' || symbol == '\t'

def skipBlanks (text : List Char) : List Char := text.dropWhile isBlank

theorem skipBlanks_length_le (text : List Char) : (skipBlanks text).length ≤ text.length := by
  induction text with
  | nil => simp [skipBlanks]
  | cons symbol rest ih =>
      by_cases h : isBlank symbol = true
      · simp only [skipBlanks, List.dropWhile_cons, h, if_true, List.length_cons] at ih ⊢
        omega
      · simp [skipBlanks, h]

theorem length_lt_of_skipBlanks {text rest : List Char} {symbol : Char}
    (h : skipBlanks text = symbol :: rest) : rest.length < text.length := by
  have le := skipBlanks_length_le text
  rw [h, List.length_cons] at le
  omega

theorem length_le_of_skipBlanks {text rest : List Char} {symbol : Char}
    (h : skipBlanks text = symbol :: rest) : rest.length ≤ text.length :=
  Nat.le_of_lt (length_lt_of_skipBlanks h)

/-- What is shorter is not longer. -/
theorem length_le_of_shorter {rest text : List Char} (shorter : rest.length < text.length) :
    rest.length ≤ text.length :=
  Nat.le_of_lt shorter

/-- Two readings one after the other leave no more than there was. -/
theorem length_le_of_both_shorter {last rest text : List Char}
    (first : rest.length < text.length) (second : last.length < rest.length) :
    last.length ≤ text.length :=
  Nat.le_of_lt (Nat.lt_trans second first)

/-- What a reader leaves that began behind blanks is shorter than all of the text. -/
theorem length_lt_behind_blanks {text rest left : List Char} {symbol : Char}
    (h : skipBlanks text = symbol :: rest) (shorter : left.length < (symbol :: rest).length) :
    left.length < text.length :=
  Nat.lt_of_le_of_lt (Nat.le_of_lt_succ shorter) (length_lt_of_skipBlanks h)

theorem length_lt_cons (symbol : Char) (rest : List Char) :
    rest.length < (symbol :: rest).length :=
  Nat.lt_succ_self rest.length

theorem length_le_cons (symbol : Char) (rest : List Char) :
    rest.length ≤ (symbol :: rest).length :=
  Nat.le_succ rest.length

def isDigit (symbol : Char) : Bool := '0' ≤ symbol && symbol ≤ '9'

def digitValue (symbol : Char) : Nat := symbol.toNat - '0'.toNat

/-- Take the letters that are left of a word; a wrong letter counts as taken. -/
def readLetters (letters : List Char) (text : List Char) : Except Fault (List Char) :=
  match letters, text with
  | [], rest => .ok rest
  | _ :: _, [] => faultAt .endInValue []
  | letter :: letters, symbol :: rest =>
      if symbol = letter then readLetters letters rest
      else faultAfter .expectedWord 1 (symbol :: rest)

theorem readLetters_length {letters text rest : List Char}
    (h : readLetters letters text = .ok rest) : rest.length ≤ text.length := by
  fun_induction readLetters letters text with
  | case1 => cases h; exact Nat.le_refl _
  | case2 => cases h
  | case3 letters symbol rest' ih =>
      have := ih h
      simp only [List.length_cons]
      omega
  | case4 => cases h

end SpeciesBrowser.Json
