import SpeciesBrowser.Text.Blank
import SpeciesBrowser.Text.Cluster
import SpeciesBrowser.Text.Width

/-!
# Glyphs

A glyph is what is drawn in one place: a cluster, with the columns that it takes there.
Clusters with a control character are never drawn. A sound mark of narrow kana takes a
column of its own beyond the one that is measured for it.
-/

namespace SpeciesBrowser.Text

structure Glyph where
  symbols : List Char
  width : Nat
deriving DecidableEq, Repr

namespace Glyph

def ofCluster (cluster : List Char) : Glyph :=
  ⟨cluster, Text.width cluster + cluster.countP isKanaSoundMark⟩

/-- Whether a line may be broken at a glyph: at blanks, but for the one that forbids it. -/
def isBreak (glyph : Glyph) : Bool :=
  glyph.symbols = ['\u200b'] || (glyph.symbols.all isBlank && glyph.symbols ≠ ['\u00a0'])

end Glyph

/-- The glyphs of a text. -/
def glyphs (text : List Char) : List Glyph :=
  ((clusters text).filter fun cluster => !cluster.any isControl).map .ofCluster

def glyphsWidth : List Glyph → Nat
  | [] => 0
  | glyph :: rest => glyph.width + glyphsWidth rest

end SpeciesBrowser.Text
