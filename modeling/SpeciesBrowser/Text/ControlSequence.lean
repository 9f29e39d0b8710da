import SpeciesBrowser.Text.Blank
import SpeciesBrowser.Text.CharRange

/-!
# Texts without control sequences

What is left of a text when nothing in it may steer a terminal: sequences that begin with
an escape character are removed, and so are control characters other than blanks. Control
characters beyond ASCII steer nothing and stay.

Main statement: a text without ASCII controls is left as it is.
-/

namespace SpeciesBrowser.Text

/-- Where a character stands with respect to control sequences. -/
inductive ControlPlace where
  | outside
  /-- Behind an escape character. -/
  | escape
  /-- Behind an escape character and signs that ask for one more character. -/
  | designation
  /-- Between the parameters of a sequence. -/
  | parameters
  /-- In a text for the terminal that only an escape character ends. -/
  | string
  /-- In a text for the terminal that a bell ends too. -/
  | command
deriving DecidableEq, Repr

namespace ControlPlace

/-- Where the character behind an escape character leads. -/
def afterEscape (symbol : Char) : ControlPlace :=
  if isBetween 0x20 0x2f symbol then .designation
  else if symbol = '[' then .parameters
  else if symbol = ']' then .command
  else if symbol = 'P' || symbol = 'X' || symbol = '^' || symbol = '_' then .string
  else .outside

/-- Where a printable character leads. -/
def afterPrintable (place : ControlPlace) (symbol : Char) : ControlPlace :=
  match place with
  | .outside => .outside
  | .escape => afterEscape symbol
  | .designation => if isBetween 0x20 0x2f symbol then .designation else .outside
  | .parameters => if isBetween 0x20 0x3f symbol then .parameters else .outside
  | .string => .string
  | .command => .command

def isText : ControlPlace → Bool
  | .string | .command => true
  | _ => false

end ControlPlace

/-- What a character leaves of itself, and where the next one stands. A blank among the
parameters of a sequence breaks it off. So does a character beyond ASCII anywhere in one,
and of that only its later bytes are left, which are no character. -/
def passControl (place : ControlPlace) (symbol : Char) : List Char × ControlPlace :=
  if symbol = '\x1b' then ([], .escape)
  else if symbol = '\x18' || symbol = '\x1a' then ([], .outside)
  else if 0x80 ≤ symbol.toNat then
    (if place = .outside then [symbol] else List.replicate (symbol.utf8Size - 1) '\ufffd', .outside)
  else if symbol = '\x07' && place = .command then ([], .outside)
  else if symbol = '\x7f' then ([], place)
  else if symbol.toNat < 0x20 then
    if isAsciiBlank symbol && !place.isText then ([symbol], .outside) else ([], place)
  else (if place = .outside then [symbol] else [], place.afterPrintable symbol)

def withoutControlsFrom (place : ControlPlace) : List Char → List Char
  | [] => []
  | symbol :: rest =>
      let (kept, place) := passControl place symbol
      kept ++ withoutControlsFrom place rest

def withoutControls (text : List Char) : List Char := withoutControlsFrom .outside text

/-- A character that no terminal takes for a command. -/
def isHarmless (symbol : Char) : Bool := 0x20 ≤ symbol.toNat && symbol ≠ '\x7f'

theorem passControl_of_isHarmless {symbol : Char} (harmless : isHarmless symbol = true) :
    passControl .outside symbol = ([symbol], .outside) := by
  simp only [isHarmless, Bool.and_eq_true, decide_eq_true_eq] at harmless
  obtain ⟨printable, no_delete⟩ := harmless
  have no_escape : symbol ≠ '\x1b' := by rintro rfl; simp at printable
  have no_cancel : symbol ≠ '\x18' := by rintro rfl; simp at printable
  have no_substitute : symbol ≠ '\x1a' := by rintro rfl; simp at printable
  simp [passControl, no_escape, no_cancel, no_substitute, no_delete, Nat.not_lt.2 printable,
    ControlPlace.afterPrintable]

theorem withoutControls_of_isHarmless {text : List Char}
    (harmless : ∀ symbol ∈ text, isHarmless symbol = true) : withoutControls text = text := by
  unfold withoutControls
  induction text with
  | nil => rfl
  | cons symbol rest ih =>
      have tail := ih fun other h => harmless other (List.mem_cons_of_mem _ h)
      simp [withoutControlsFrom, tail,
        passControl_of_isHarmless (harmless symbol List.mem_cons_self)]

end SpeciesBrowser.Text
