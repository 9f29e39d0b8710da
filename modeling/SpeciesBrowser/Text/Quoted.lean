import SpeciesBrowser.Text.Extending
import SpeciesBrowser.Text.Glyphless
import SpeciesBrowser.Text.Ignorable

/-!
# Quoted text

A text between double quotes, in which everything that could not be read back from
a page is written out: quotes and backslashes behind a backslash, line ends and tabs
by their letters, and characters without a glyph of their own by their code point.
-/

namespace SpeciesBrowser.Text

def hexDigits (value : Nat) : List Char := Nat.toDigits 16 value

def hasGlyph (symbol : Char) : Bool :=
  if symbol.toNat < 0x80 then 0x20 ≤ symbol.toNat && symbol.toNat < 0x7f
  else
    !(inRanges glyphlessRanges symbol || isIgnorable symbol ||
      (isExtending symbol && !isKanaSoundMark symbol))

def quoteChar (symbol : Char) : List Char :=
  if symbol = '\x00' then ['\\', '0']
  else if symbol = '\t' then ['\\', 't']
  else if symbol = '\r' then ['\\', 'r']
  else if symbol = '\n' then ['\\', 'n']
  else if symbol = '"' ∨ symbol = '\\' then ['\\', symbol]
  else if hasGlyph symbol then [symbol]
  else ['\\', 'u', '\x7b'] ++ hexDigits symbol.toNat ++ ['\x7d']

def quote (text : List Char) : List Char := '"' :: (text.flatMap quoteChar ++ ['"'])

end SpeciesBrowser.Text
