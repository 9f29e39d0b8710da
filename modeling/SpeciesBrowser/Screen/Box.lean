import SpeciesBrowser.Screen.Palette

/-!
# Boxes

A box is drawn along the edge of an area, with round corners. Where an area has one
row or one column the corners at its top and at its left are drawn last.
-/

namespace SpeciesBrowser.Screen

open Text

namespace Canvas

def drawBox (canvas : Canvas) (area : Area) : Canvas :=
  if area.isEmpty then canvas
  else
    let style : Style := { colour := some Palette.border }
    let right := area.right - 1
    let bottom := area.bottom - 1
    let across (canvas : Canvas) (y : Nat) : Canvas :=
      (List.range area.width).foldl (fun canvas dx => canvas.put (area.x + dx) y ['─'] style)
        canvas
    let down (canvas : Canvas) (x : Nat) : Canvas :=
      (List.range area.height).foldl (fun canvas dy => canvas.put x (area.y + dy) ['│'] style)
        canvas
    let canvas := across (down (across (down canvas area.x) area.y) right) bottom
    let canvas := canvas.put right bottom ['╯'] style
    let canvas := canvas.put right area.y ['╮'] style
    let canvas := canvas.put area.x bottom ['╰'] style
    canvas.put area.x area.y ['╭'] style

/-- Write a title into the top edge of a box, between its corners. -/
def writeBoxTitle (canvas : Canvas) (area : Area) (title : String) : Canvas :=
  canvas.writeText
    { x := area.x + 1, y := area.y, width := area.width - 2, height := min area.height 1 }
    title.toList { colour := some Palette.title, bold := true }

end Canvas

end SpeciesBrowser.Screen
