import SpeciesBrowser.Text.Blank
import SpeciesBrowser.Text.LowerCase

/-!
# Lines of a settings file

A line holds a key and a value with an equals sign between them. Blank lines, lines
that open with a comment marker and lines without an equals sign hold nothing. A
marker ends the value only after an ASCII blank, so addresses keep their slashes and
their fragments.
-/

namespace SpeciesBrowser.Settings

open Text

def opensComment : List Char → Bool
  | '#' :: _ => true
  | '/' :: '/' :: _ => true
  | _ => false

/-- Whether a comment starts here, given the character before; none stands before the first. -/
def startsComment (before : Option Char) (text : List Char) : Bool :=
  match before with
  | some symbol => opensComment text && isAsciiBlank symbol
  | none => ['/', '/'].isPrefixOf text

/-- The part of a text that stands before the first comment start. -/
def cutComment (before : Option Char) : List Char → List Char
  | [] => []
  | symbol :: rest =>
      if startsComment before (symbol :: rest) then []
      else symbol :: cutComment (some symbol) rest

def valueOf (text : List Char) : List Char := trim (cutComment none (trim text))

/-- Dots, hyphens and spaces between the words of a key count as underscores. -/
def joinWords (symbol : Char) : Char :=
  if symbol = '.' ∨ symbol = '-' ∨ symbol = ' ' then '_' else symbol

def keyOf (text : List Char) : List Char := (lower (trim text)).map joinWords

/-- The texts before and after the first equals sign. -/
def splitEquals? : List Char → Option (List Char × List Char)
  | [] => none
  | '=' :: rest => some ([], rest)
  | symbol :: rest => (splitEquals? rest).map fun (key, value) => (symbol :: key, value)

/-- The key and the value of a line. -/
def entry? (line : List Char) : Option (List Char × List Char) :=
  let text := trim line
  if text.isEmpty || opensComment text then none
  else (splitEquals? text).map fun (key, value) => (keyOf key, valueOf value)

/-- The lines of a text. A line ends at a line feed; a last line may go without. -/
def lines (text : List Char) : List (List Char) :=
  text.foldr
    (fun symbol lines =>
      if symbol = '\n' then [] :: lines
      else match lines with
        | [] => [[symbol]]
        | line :: later => (symbol :: line) :: later)
    [[]]

end SpeciesBrowser.Settings
