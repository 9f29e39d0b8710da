import SpeciesBrowser.Screen.Rows

/-!
# The footer

The two controls with the page number between them, and the keys. A control that does
nothing is dimmed.
-/

namespace SpeciesBrowser.Screen

def controlStyle (enabled : Bool) : Style :=
  if enabled then { colour := some Palette.control, bold := true }
  else { colour := some Palette.border, dim := true }

def previousControl (browser : Browser) : Span :=
  { text := "[← Previous]".toList, style := controlStyle browser.controller.hasPrev }

def nextControl (browser : Browser) : Span :=
  { text := "[Next →]".toList, style := controlStyle browser.controller.hasNext }

def gap : Span := { text := blanks 2, style := {} }

def footerSpans (browser : Browser) : List Span :=
  [previousControl browser,
   gap,
   { text := s!"Page {browser.controller.page.number}".toList
     style := { colour := some Palette.text } },
   gap,
   nextControl browser,
   { text := "    ←/h prev  →/l next  ↑↓ move  r retry  q quit".toList
     style := { colour := some Palette.faint } }]

end SpeciesBrowser.Screen
