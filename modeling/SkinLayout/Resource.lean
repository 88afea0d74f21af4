import SkinLayout.Geometry
import SkinLayout.Table
/-!
# Fonts, images and the display

What layout asks of the host: metrics of fonts and images, found by name, and the
size of the display.  A font keeps its metrics at its native size and scales them
by the point size asked for.
-/
namespace SkinLayout

/-! ## Fonts -/

structure Font where
  nativeSize : Float32
  pointSize : Float32
  nativeSpacing : Float32
  nativeBaseline : Float32
  /-- The advance of a character that has none of its own. -/
  advance : Float32
  glyphs : Table Char Float32

namespace Font

/-- A font at its native size, with metrics in the usual proportions. -/
def ofSize (size : Float32) : Font where
  nativeSize := size
  pointSize := size
  nativeSpacing := size * 1.25
  nativeBaseline := size * 0.8
  advance := size * 0.5
  glyphs := .empty

def scale (f : Font) : Float32 :=
  if Single.isNearZero f.nativeSize then 0 else f.pointSize / f.nativeSize

def lineSpacing (f : Font) : Float32 := f.nativeSpacing * f.scale

def baseline (f : Font) : Float32 := f.nativeBaseline * f.scale

def glyphAdvance (f : Font) (c : Char) : Float32 := (f.glyphs.get? c).getD f.advance

/-- The width of a text.  The sum starts at negative zero, the number that adding
leaves every other as it is. -/
def textExtent (f : Font) (s : String) : Float32 :=
  s.toList.foldl (fun x c => x + f.glyphAdvance c) (-0.0) * f.scale

def withPointSize (f : Font) (size : Float32) : Font := { f with pointSize := size }

end Font

/-! ## Images -/

structure Image where
  size : Size Float32
  offset : Point Float32
  deriving BEq, DecidableEq, Inhabited

/-! ## All of them by name -/

structure Resources where
  fonts : Table String Font
  images : Table String Image
  display : Size Float32

namespace Resources

def ofDisplay (display : Size Float32) : Resources := ⟨.empty, .empty, display⟩

def addFont (r : Resources) (name : String) (f : Font) : Resources :=
  { r with fonts := r.fonts.insert name f }

def addImage (r : Resources) (name : String) (i : Image) : Resources :=
  { r with images := r.images.insert name i }

def setPointSize (r : Resources) (name : String) (size : Float32) : Resources :=
  { r with fonts := r.fonts.modify name fun f => f.withPointSize size }

end Resources

end SkinLayout
