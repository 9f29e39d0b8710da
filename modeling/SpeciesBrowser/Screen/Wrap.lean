import SpeciesBrowser.Text.Glyph

/-!
# Wrapping lines

A line is broken between words where one can, and inside a word where one must. Blanks
at a break are dropped as far as they would have fitted on the line before.
-/

namespace SpeciesBrowser.Screen

open Text

/-- The line in the making, the word and the blanks that come after it, and whether the
last glyph belonged to a word. -/
structure Wrapping where
  lines : List (List Glyph) := []
  line : List Glyph := []
  word : List Glyph := []
  space : List Glyph := []
  inWord : Bool := false

namespace Wrapping

/-- Put the blanks and the word on the line; blanks never open a line. -/
def joined (state : Wrapping) : List Glyph :=
  (if state.line.isEmpty then [] else state.line ++ state.space) ++ state.word

def closeWord (state : Wrapping) (limit : Nat) (glyph : Glyph) : Wrapping :=
  if (state.inWord && glyph.isBreak) ||
      (state.line.isEmpty && limit < glyphsWidth state.word + glyph.width) ||
      (state.line.isEmpty && limit < glyphsWidth state.space + glyph.width) then
    { state with line := state.joined, word := [], space := [] }
  else state

def isFull (state : Wrapping) (limit : Nat) (glyph : Glyph) : Bool :=
  limit ≤ glyphsWidth state.line ||
    (0 < glyph.width &&
      limit ≤ glyphsWidth state.line + glyphsWidth state.space + glyphsWidth state.word)

/-- Drop the blanks that fit into what is left of a line. -/
def dropFitting : Nat → List Glyph → List Glyph
  | _, [] => []
  | left, glyph :: rest =>
      if glyph.width ≤ left then dropFitting (left - glyph.width) rest else glyph :: rest

def breakLine (state : Wrapping) (limit : Nat) : Wrapping :=
  { state with
    lines := state.lines ++ [state.line]
    line := []
    space := dropFitting (limit - glyphsWidth state.line) state.space }

def add (state : Wrapping) (glyph : Glyph) : Wrapping :=
  if glyph.isBreak then { state with space := state.space ++ [glyph], inWord := false }
  else { state with word := state.word ++ [glyph], inWord := true }

def step (limit : Nat) (state : Wrapping) (glyph : Glyph) : Wrapping :=
  if limit < glyph.width then state
  else
    let state := state.closeWord limit glyph
    if state.isFull limit glyph then
      let state := state.breakLine limit
      if glyph.isBreak && state.space.isEmpty then state else state.add glyph
    else state.add glyph

def finish (state : Wrapping) : List (List Glyph) :=
  let blankLine :=
    if state.line.isEmpty && state.word.isEmpty && !state.space.isEmpty then [[]] else []
  let last := if state.joined.isEmpty then [] else [state.joined]
  match state.lines ++ blankLine ++ last with
  | [] => [[]]
  | lines => lines

end Wrapping

/-- The lines into which a text is wrapped; there is one at least. -/
def wrap (limit : Nat) (text : List Char) : List (List Glyph) :=
  ((glyphs text).foldl (Wrapping.step limit) {}).finish

end SpeciesBrowser.Screen
