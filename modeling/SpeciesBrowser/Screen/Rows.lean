import SpeciesBrowser.Browser
import SpeciesBrowser.Screen.Box

/-!
# The rows of a page on screen

A row is an id, the primary label and the secondary label; the secondary labels of a
page start in one column unless an id or a primary label is too wide for that. Only a
window of the rows is shown; it moves as little as it can to keep the highlighted row
inside.
-/

namespace SpeciesBrowser

open Text

namespace Screen

/-- A text with its style. -/
structure Span where
  text : List Char
  style : Style
deriving DecidableEq, Repr

namespace Span

def width (span : Span) : Nat := Text.width span.text

end Span

/-- The widest column that primary labels are padded to. -/
def maxPrimaryWidth : Nat := 24

/-- The narrowest column for ids. -/
def idColumn : Nat := 5

/-- The width that the primary labels of a page are padded to. -/
def primaryWidth (rows : List Row) : Nat :=
  min maxPrimaryWidth
    ((rows.filterMap fun row => row.primary.map fun label => Text.width label.toList).foldl max 0)

def blanks (count : Nat) : List Char := List.replicate count ' '

def idText (row : Row) : List Char :=
  let digits := (toString row.id).toList
  '#' :: (digits ++ blanks (idColumn - digits.length))

def rowSpans (row : Row) (primaryWidth : Nat) : List Span :=
  let primary := (row.primary.getD "").toList
  [{ text := idText row, style := { colour := some Palette.faint } },
   { text := primary, style := { colour := some Palette.text, bold := true } },
   { text := blanks (primaryWidth - Text.width primary + 2), style := {} },
   { text := (row.secondary.getD "").toList, style := { colour := some Palette.quiet } }]

end Screen

namespace ListCursor

/-- The first row shown in a window of some height over so many rows. -/
def windowStart (cursor : ListCursor) (rows height : Nat) : Nat :=
  let start := min cursor.scroll (rows - 1)
  match cursor.highlight with
  | none => start
  | some row =>
      if row < start then row
      else if start + height ≤ row then row - height + 1
      else start

/-- The cursor as a drawing of so many rows in a window of some height leaves it: a highlight
behind the last row falls back to that row, and then the window is moved to the highlight. -/
def shownIn (cursor : ListCursor) (rows height : Nat) : ListCursor :=
  let kept := { cursor with highlight := cursor.highlight.map (min · (rows - 1)) }
  { kept with scroll := kept.windowStart rows height }

/-- The rows in a window of some height, with their numbers. -/
def visibleRows (cursor : ListCursor) (rows : List Row) (height : Nat) : List (Row × Nat) :=
  ((rows.zipIdx).drop cursor.scroll).take height

end ListCursor

namespace Screen

namespace Canvas

/-- Write spans one after another; each starts where the measured width of those before it
ends. A span without width is left out. -/
def writeSpans (canvas : Canvas) (area : Area) : List Span → Canvas
  | [] => canvas
  | span :: rest =>
      if span.width = 0 then canvas.writeSpans area rest
      else
        (canvas.writeText area span.text span.style).writeSpans (area.dropColumns span.width) rest

/-- Draw one row. While some row is highlighted all rows are set in by two columns. -/
def drawRow (canvas : Canvas) (area : Area) (row : Row) (primaryWidth : Nat)
    (marking : Option Bool) : Canvas :=
  let spans := rowSpans row primaryWidth
  match marking with
  | none => canvas.writeSpans area spans
  | some highlighted =>
      let canvas := canvas.writeSpans (area.dropColumns 2) spans
      let canvas := if highlighted then canvas.paintBackground area Palette.raised else canvas
      canvas.writeText { area with width := 2 } (if highlighted then ['>', ' '] else blanks 2) {}

/-- Draw the rows of a page that a window shows. -/
def drawRows (canvas : Canvas) (area : Area) (rows : List Row) (cursor : ListCursor) : Canvas :=
  let width := primaryWidth rows
  (cursor.visibleRows rows area.height).foldl (fun canvas (row, index) =>
    canvas.drawRow (area.row (index - cursor.scroll)) row width
      (cursor.highlight.map fun highlight => highlight = index)) canvas

end Canvas

end Screen

end SpeciesBrowser
