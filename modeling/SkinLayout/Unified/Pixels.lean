import SkinLayout.Unified.Basic
/-!
# From unified lengths to pixels

Once the base is known a unified length is a number of pixels.  With alignment
on, the number is rounded to a whole one, a half going away from zero; everything
that lands on screen is rounded so.
-/
namespace SkinLayout

/-- Rounds if alignment to whole pixels is on. -/
def snap (align : Bool) (x : Float32) : Float32 := if align then Single.roundHalfAway x else x

namespace Unified

def toPixels (u : Unified) (align : Bool) (base : Float32) : Float32 :=
  snap align (base * u.scale + u.offset)

/-- The fraction of the base that the length comes to; nothing of a base too close
to zero. -/
def toFraction (u : Unified) (base : Float32) : Float32 :=
  if Single.isNearZero base then 0 else u.offset / base + u.scale

end Unified

def Point.toPixels (p : Point Unified) (align : Bool) (base : Size Float32) : Point Float32 :=
  ⟨p.x.toPixels align base.width, p.y.toPixels align base.height⟩

def Point.toFraction (p : Point Unified) (base : Size Float32) : Point Float32 :=
  ⟨p.x.toFraction base.width, p.y.toFraction base.height⟩

def Size.toPixels (s : Size Unified) (align : Bool) (base : Size Float32) : Size Float32 :=
  ⟨s.width.toPixels align base.width, s.height.toPixels align base.height⟩

def Size.toFraction (s : Size Unified) (base : Size Float32) : Size Float32 :=
  ⟨s.width.toFraction base.width, s.height.toFraction base.height⟩

/-- Both corners are turned into pixels before their difference is taken, so each
edge is rounded by itself. -/
def UnifiedRect.toPixels (r : UnifiedRect) (align : Bool) (base : Size Float32) : Rect :=
  let min := r.min.toPixels align base
  let max := r.max.toPixels align base
  Rect.ofEdges min.x min.y max.x max.y

/-- Where a child of pixel size `size` starts on screen, in the parent's rectangle.
Only the sum is rounded. -/
def originIn (parent : Rect) (position : Point Unified) (size : Size Float32)
    (horizontal vertical : Alignment) : Point Float32 :=
  ⟨Single.roundHalfAway (parent.x + position.x.toPixels false parent.width +
      horizontal.correction parent.width size.width),
    Single.roundHalfAway (parent.y + position.y.toPixels false parent.height +
      vertical.correction parent.height size.height)⟩

end SkinLayout
