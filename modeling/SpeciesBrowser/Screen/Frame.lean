import SpeciesBrowser.Screen.Footer
import SpeciesBrowser.Screen.Wrap

/-!
# Frames

A frame shows a title, the list in a box and the footer in a box, one above the other.
Drawing gets no more of the state to change than the cursor of the list.
-/

namespace SpeciesBrowser

namespace Screen

structure FrameAreas where
  title : Area
  list : Area
  footer : Area
deriving DecidableEq, Repr

/-- How the rows of a terminal are shared. The list is served before the others. -/
def frameHeights (height : Nat) : Nat × Nat × Nat :=
  match height with
  | 4 => (1, 3, 0)
  | 5 => (1, 3, 1)
  | 6 => (1, 3, 2)
  | height => if height ≤ 3 then (0, height, 0) else (1, height - 4, 3)

def frameAreas (width height : Nat) : FrameAreas :=
  let (title, list, footer) := frameHeights height
  { title := { x := 0, y := 0, width, height := title }
    list := { x := 0, y := title, width, height := list }
    footer := { x := 0, y := title + list, width, height := footer } }

def titleSpans (endpoint : String) : List Span :=
  { text := "dexpage".toList, style := { colour := some Palette.title, bold := true } } ::
    (if endpoint.isEmpty then []
     else [{ text := "  ".toList ++ endpoint.toList, style := { colour := some Palette.faint } }])

def styledGlyphs (style : Style) (text : List Char) : List (Text.Glyph × Style) :=
  (Text.glyphs text).map (·, style)

/-- The glyphs that fit into what is left of a line. One that is wider than the whole line is
passed over, and the first other one that does not fit ends it. -/
def fitting (line : Nat) : (left : Nat) → List (Text.Glyph × Style) → List (Text.Glyph × Style)
  | _, [] => []
  | left, (glyph, style) :: rest =>
      if line < glyph.width then fitting line left rest
      else if left < glyph.width then []
      else (glyph, style) :: fitting line (left - glyph.width) rest

namespace Canvas

/-- Write spans into one line, without a break. -/
def writeLine (canvas : Canvas) (area : Area) (spans : List Span) : Canvas :=
  if area.isEmpty then canvas
  else
    canvas.layLine area.y area.x
      (fitting area.width area.width (spans.flatMap fun span => styledGlyphs span.style span.text))

/-- Write wrapped lines below each other until the area is full. A wide glyph at the end of a
line may cover the column behind the area. -/
def writeLines (canvas : Canvas) (area : Area) (lines : List (List (Text.Glyph × Style))) :
    Canvas :=
  ((lines.zipIdx).take area.height).foldl (fun canvas (line, index) =>
    canvas.layLine (area.y + index) area.x line) canvas

def drawListBox (canvas : Canvas) (area : Area) : Canvas :=
  (canvas.drawBox area).writeBoxTitle area " Species "

def drawMessage (canvas : Canvas) (area : Area) (text : String) (colour : Colour) : Canvas :=
  (canvas.drawListBox area).writeLine area.inner
    [{ text := text.toList, style := { colour := some colour } }]

/-- Draw a failure: its message and what to do about it, wrapped. -/
def drawFailure (canvas : Canvas) (area : Area) (message : String) : Canvas :=
  let inner := area.inner
  let canvas := canvas.drawListBox area
  if inner.isEmpty then canvas
  else
    let alarm : Style := { colour := some Palette.alarm, bold := true }
    let hint : Style := { colour := some Palette.faint }
    let styled (text : String) (style : Style) : List (List (Text.Glyph × Style)) :=
      (wrap inner.width text.toList).map fun line => line.map (·, style)
    canvas.writeLines inner
      (styled ("Error: " ++ message) alarm ++ styled "" alarm ++
        styled "Press r to retry, or change page." hint)

def drawFooter (canvas : Canvas) (area : Area) (browser : Browser) : Canvas :=
  (canvas.drawBox area).writeLine area.inner (footerSpans browser)

end Canvas

end Screen

open Screen

namespace Browser

/-- The cursor as a drawing in an area leaves it. Without rows, or without room for them, the
list is not drawn. -/
def cursorIn (browser : Browser) (area : Area) : ListCursor :=
  if browser.rowCount = 0 || area.isEmpty then browser.cursor
  else browser.cursor.shownIn browser.rowCount area.height

/-- The area that rows are shown in on a terminal of some size. -/
def rowArea (width height : Nat) : Area := (frameAreas width height).list.inner

/-- The browser after it has been drawn. -/
def afterDraw (browser : Browser) (width height : Nat) : Browser :=
  { browser with cursor := browser.cursorIn (rowArea width height) }

def drawList (browser : Browser) (canvas : Canvas) (area : Area) : Canvas :=
  match browser.view with
  | .loading => canvas.drawMessage area "Loading..." Palette.waiting
  | .failed message => canvas.drawFailure area message
  | .ready page =>
      if page.rows.isEmpty then
        canvas.drawMessage area "No entries on this page." Palette.faint
      else
        let canvas := (canvas.paintForeground area Palette.text).drawListBox area
        if area.inner.isEmpty then canvas
        else canvas.drawRows area.inner page.rows (browser.cursorIn area.inner)

/-- The frame that a browser shows. -/
def frame (browser : Browser) (width height : Nat) : Canvas :=
  let areas := frameAreas width height
  let canvas := Canvas.blank width height Palette.base
  let canvas := canvas.writeLine areas.title (titleSpans browser.endpoint)
  (browser.drawList canvas areas.list).drawFooter areas.footer browser

end Browser

end SpeciesBrowser
