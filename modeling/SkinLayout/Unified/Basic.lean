import SkinLayout.Geometry
/-!
# Unified lengths

A unified length is a fraction of some base length plus a number of pixels, so
"half the parent, less four pixels" can be said before the parent has a size.
-/
namespace SkinLayout

structure Unified where
  scale : Float32
  offset : Float32
  deriving BEq, DecidableEq, Inhabited

namespace Unified

def absolute (pixels : Float32) : Unified := ⟨0, pixels⟩

def relative (fraction : Float32) : Unified := ⟨fraction, 0⟩

def zero : Unified := ⟨0, 0⟩

/-- The whole of the base length. -/
def full : Unified := ⟨1, 0⟩

def isAbsolute (u : Unified) : Bool := u.scale == 0

/-! ## Arithmetic, part by part -/

instance : Add Unified := ⟨fun u v => ⟨u.scale + v.scale, u.offset + v.offset⟩⟩

instance : Sub Unified := ⟨fun u v => ⟨u.scale - v.scale, u.offset - v.offset⟩⟩

instance : Mul Unified := ⟨fun u v => ⟨u.scale * v.scale, u.offset * v.offset⟩⟩

instance : HMul Unified Float32 Unified := ⟨fun u x => ⟨u.scale * x, u.offset * x⟩⟩

instance : Neg Unified := ⟨fun u => ⟨-u.scale, -u.offset⟩⟩

/-- Division that gives nothing for a divisor too close to zero. -/
def quotient (x y : Float32) : Float32 := if Single.isNearZero y then 0 else x / y

/-- Each part is guarded by itself. -/
instance : Div Unified := ⟨fun u v => ⟨quotient u.scale v.scale, quotient u.offset v.offset⟩⟩

end Unified

/-! ## Rectangles of unified lengths -/

/-- A rectangle by two corners. -/
structure UnifiedRect where
  min : Point Unified
  max : Point Unified
  deriving BEq, DecidableEq, Inhabited

namespace UnifiedRect

def ofEdges (left top right bottom : Unified) : UnifiedRect := ⟨⟨left, top⟩, ⟨right, bottom⟩⟩

def ofSize (position : Point Unified) (size : Size Unified) : UnifiedRect :=
  ⟨position, ⟨position.x + size.width, position.y + size.height⟩⟩

def position (r : UnifiedRect) : Point Unified := r.min

def size (r : UnifiedRect) : Size Unified := ⟨r.max.x - r.min.x, r.max.y - r.min.y⟩

/-- Moves the rectangle, keeping its size. -/
def withPosition (r : UnifiedRect) (p : Point Unified) : UnifiedRect := ofSize p r.size

/-- Resizes the rectangle, keeping its first corner. -/
def withSize (r : UnifiedRect) (s : Size Unified) : UnifiedRect := ofSize r.min s

def zero : UnifiedRect := ofEdges .zero .zero .zero .zero

end UnifiedRect

end SkinLayout
