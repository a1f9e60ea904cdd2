import Noughts.Fault
import Noughts.Mark

/-!
What is drawn for the content of a square.

Any three texts can be glyphs.  Drawing them takes fields as wide as the widest,
and a field has a width of 16 bits; glyphs for which that is enough make up a
`Palette`.
-/

namespace Noughts

/-- A text for each mark and one for an empty square.  The texts may differ in
length; a drawing makes room for the longest. -/
structure Glyphs where
  x : String
  o : String
  empty : String
deriving DecidableEq, Repr

namespace Glyphs

/-- One letter with a space on either side. -/
def standard : Glyphs :=
  { x := " X ", o := " O ", empty := "   " }

def glyph (g : Glyphs) : Cell → String
  | some .x => g.x
  | some .o => g.o
  | none => g.empty

/-- The number of characters of the longest glyph. -/
def width (g : Glyphs) : Nat :=
  max g.x.length (max g.o.length g.empty.length)

theorem length_glyph_le (g : Glyphs) (c : Cell) : (g.glyph c).length ≤ g.width := by
  unfold glyph width
  split <;> omega

end Glyphs

/-- Glyphs that fit in a field. -/
structure Palette extends Glyphs where
  width_lt : toGlyphs.width < UInt16.size
deriving DecidableEq

def Glyphs.toPalette (g : Glyphs) : Except Fault Palette :=
  if h : g.width < UInt16.size then .ok { toGlyphs := g, width_lt := h } else .error .tooWide

def Palette.standard : Palette :=
  { toGlyphs := .standard, width_lt := by decide }

theorem Glyphs.toPalette_of_narrow {g : Glyphs} (h : g.width < UInt16.size) :
    g.toPalette = .ok { toGlyphs := g, width_lt := h } :=
  dif_pos h

theorem Glyphs.toPalette_of_wide {g : Glyphs} (h : ¬ g.width < UInt16.size) :
    g.toPalette = .error .tooWide :=
  dif_neg h

end Noughts
