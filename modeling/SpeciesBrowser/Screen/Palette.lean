import SpeciesBrowser.Screen.Canvas

/-!
# The palette
-/

namespace SpeciesBrowser.Screen.Palette

def base : Colour := .rgb 0x1e1e2e
def raised : Colour := .rgb 0x45475a
def border : Colour := .rgb 0x7f849c
def faint : Colour := .rgb 0x9399b2
def quiet : Colour := .rgb 0xa6adc8
def text : Colour := .rgb 0xcdd6f4
def control : Colour := .rgb 0x74c7ec
def title : Colour := .rgb 0xcba6f7
def waiting : Colour := .rgb 0xf9e2af
def alarm : Colour := .rgb 0xf38ba8

end SpeciesBrowser.Screen.Palette
