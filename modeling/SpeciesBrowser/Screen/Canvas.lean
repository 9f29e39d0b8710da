import SpeciesBrowser.Text.Glyph

/-!
# Canvases

A screen is a grid of cells with a glyph, two colours and two attributes. A glyph of
several columns stands in the first of them and hides the cells of the others. Writing
keeps the background, and whatever else it does not bring a value for.
-/

namespace SpeciesBrowser.Screen

open Text

inductive Colour where
  | reset
  | rgb (code : Nat)
deriving DecidableEq, Repr

namespace Colour

def text : Colour → String
  | .reset => "reset"
  | .rgb code =>
      let digits := hexOf code
      "#" ++ String.ofList (List.replicate (6 - digits.length) '0' ++ digits)
where
  hexOf (code : Nat) : List Char := Nat.toDigits 16 code

end Colour

/-- How a text is written. -/
structure Style where
  colour : Option Colour := none
  bold : Bool := false
  dim : Bool := false
deriving DecidableEq, Repr

structure Cell where
  symbols : List Char := [' ']
  foreground : Colour := .reset
  background : Colour := .reset
  bold : Bool := false
  dim : Bool := false
deriving DecidableEq, Repr

namespace Cell

def styled (cell : Cell) (style : Style) : Cell :=
  { cell with
    foreground := style.colour.getD cell.foreground
    bold := cell.bold || style.bold
    dim := cell.dim || style.dim }

def write (cell : Cell) (symbols : List Char) (style : Style) : Cell :=
  { cell.styled style with symbols }

/-- How many columns are taken up once the cell is shown. -/
def columns (cell : Cell) : Nat := max 1 (width cell.symbols)

def sameLook (first second : Cell) : Bool :=
  { first with symbols := [] } == { second with symbols := [] }

def look (cell : Cell) : String :=
  cell.foreground.text ++ "/" ++ cell.background.text ++
    (if cell.bold then " bold" else "") ++ (if cell.dim then " dim" else "")

end Cell

structure Area where
  x : Nat
  y : Nat
  width : Nat
  height : Nat
deriving DecidableEq, Repr

namespace Area

def right (area : Area) : Nat := area.x + area.width

def bottom (area : Area) : Nat := area.y + area.height

def isEmpty (area : Area) : Bool := area.width = 0 || area.height = 0

/-- The area inside a box around it. -/
def inner (area : Area) : Area :=
  { x := area.x + 1, y := area.y + 1, width := area.width - 2, height := area.height - 2 }

/-- The area without some columns at its left. -/
def dropColumns (area : Area) (columns : Nat) : Area :=
  { area with x := area.x + columns, width := area.width - columns }

def row (area : Area) (index : Nat) : Area := { area with y := area.y + index, height := 1 }

/-- The positions of an area, row by row. -/
def positions (area : Area) : List (Nat × Nat) :=
  (List.range area.height).flatMap fun (dy : Nat) =>
    (List.range area.width).map fun (dx : Nat) => (area.x + dx, area.y + dy)

end Area

structure Canvas where
  width : Nat
  height : Nat
  cells : Array Cell

namespace Canvas

def blank (width height : Nat) (background : Colour) : Canvas :=
  { width, height, cells := Array.replicate (width * height) { background } }

def cell (canvas : Canvas) (x y : Nat) : Cell :=
  if x < canvas.width then canvas.cells[y * canvas.width + x]?.getD {} else {}

/-- Change one cell; there is nothing outside the canvas. -/
def modify (canvas : Canvas) (x y : Nat) (change : Cell → Cell) : Canvas :=
  if x < canvas.width then
    { canvas with cells := canvas.cells.modify (y * canvas.width + x) change }
  else canvas

def modifyArea (canvas : Canvas) (area : Area) (change : Cell → Cell) : Canvas :=
  area.positions.foldl (fun canvas (x, y) => canvas.modify x y change) canvas

def paintForeground (canvas : Canvas) (area : Area) (colour : Colour) : Canvas :=
  canvas.modifyArea area ({ · with foreground := colour })

def paintBackground (canvas : Canvas) (area : Area) (colour : Colour) : Canvas :=
  canvas.modifyArea area ({ · with background := colour })

def put (canvas : Canvas) (x y : Nat) (symbols : List Char) (style : Style) : Canvas :=
  canvas.modify x y (·.write symbols style)

/-- Add symbols to what stands in a cell. -/
def attach (canvas : Canvas) (x y : Nat) (symbols : List Char) (style : Style) : Canvas :=
  canvas.modify x y fun cell => cell.write (cell.symbols ++ symbols) style

/-- Empty some columns, colours included. -/
def clear (canvas : Canvas) (x y columns : Nat) : Canvas :=
  (List.range columns).foldl (fun canvas (place : Nat) => canvas.modify (x + place) y fun _ => {})
    canvas

/-- Write glyphs from left to right and clear the columns that they hide. The first glyph
that does not fit before `right` ends the text. One without width is added to the glyph
before it; at the start the others are added to it. -/
def writeGlyphs (canvas : Canvas) (start right y : Nat) (style : Style) :
    (x : Nat) → (first : Bool) → List Glyph → Canvas
  | _, _, [] => canvas
  | x, first, glyph :: rest =>
      if right < x + glyph.width then canvas
      else
        let canvas :=
          if first then canvas.put x y glyph.symbols style
          else if x = start then canvas.attach x y glyph.symbols style
          else if glyph.width = 0 then canvas.attach (x - 1) y glyph.symbols style
          else canvas.put x y glyph.symbols style
        (canvas.clear (x + 1) y (glyph.width - 1)).writeGlyphs start right y style
          (x + glyph.width) false rest

/-- Write a text into the first row of an area. -/
def writeText (canvas : Canvas) (area : Area) (text : List Char) (style : Style) : Canvas :=
  if area.isEmpty then canvas
  else canvas.writeGlyphs area.x area.right area.y style area.x true (glyphs text)

/-- Lay out a line that has been fitted to its place. Glyphs without width are left out,
and the cells that a glyph hides stay as they are. -/
def layLine (canvas : Canvas) (y : Nat) : (x : Nat) → List (Glyph × Style) → Canvas
  | _, [] => canvas
  | x, (glyph, style) :: rest =>
      if glyph.width = 0 then canvas.layLine y x rest
      else (canvas.put x y glyph.symbols style).layLine y (x + glyph.width) rest

/-! ## Reading a canvas -/

def rowCells (canvas : Canvas) (y : Nat) : List Cell :=
  (List.range canvas.width).map fun (x : Nat) => canvas.cell x y

/-- The cells that are not hidden, with their columns as far as the row has them; the first
`hidden` cells are. -/
def shownFrom (hidden : Nat) : List Cell → List (Cell × Nat)
  | [] => []
  | cell :: rest =>
      match hidden with
      | 0 => (cell, min cell.columns (rest.length + 1)) :: shownFrom (cell.columns - 1) rest
      | hidden + 1 => shownFrom hidden rest

def rowShown (canvas : Canvas) (y : Nat) : List (Cell × Nat) := shownFrom 0 (canvas.rowCells y)

def rowText (canvas : Canvas) (y : Nat) : String :=
  String.ofList ((canvas.rowShown y).flatMap (·.1.symbols))

/-- A stretch of a row whose cells look alike. -/
structure Run where
  start : Nat
  stop : Nat
  cell : Cell

def Run.text (run : Run) : String := s!"{run.start}-{run.stop} " ++ run.cell.look

def runsFrom (start : Nat) : List (Cell × Nat) → List Run
  | [] => []
  | (cell, columns) :: rest =>
      match runsFrom (start + columns) rest with
      | [] => [⟨start, start + columns, cell⟩]
      | run :: later =>
          if cell.sameLook run.cell then ⟨start, run.stop, cell⟩ :: later
          else ⟨start, start + columns, cell⟩ :: run :: later

def rowRuns (canvas : Canvas) (y : Nat) : List Run := runsFrom 0 (canvas.rowShown y)

end Canvas

end SpeciesBrowser.Screen
