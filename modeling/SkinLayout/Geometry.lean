import SkinLayout.Number.Single
/-!
# Pixel geometry

Points and sizes carry any kind of length, so the same two types serve pixels and
lengths that are still relative to a parent.  Rectangles here are in pixels.
-/
namespace SkinLayout

structure Point (α : Type) where
  x : α
  y : α
  deriving BEq, DecidableEq, Inhabited

structure Size (α : Type) where
  width : α
  height : α
  deriving BEq, DecidableEq, Inhabited

instance {α : Type} [Add α] : Add (Point α) := ⟨fun p q => ⟨p.x + q.x, p.y + q.y⟩⟩

instance {α : Type} [Sub α] : Sub (Point α) := ⟨fun p q => ⟨p.x - q.x, p.y - q.y⟩⟩

/-! ## Axes -/

inductive Axis where
  | horizontal
  | vertical
  deriving DecidableEq, Inhabited

/-- The side of a size that lies along the axis. -/
def Axis.extent {α : Type} : Axis → Size α → α
  | .horizontal, s => s.width
  | .vertical, s => s.height

/-! ## Rectangles -/

structure Rect where
  x : Float32
  y : Float32
  width : Float32
  height : Float32
  deriving BEq, DecidableEq, Inhabited

namespace Rect

def ofSize (position : Point Float32) (size : Size Float32) : Rect :=
  ⟨position.x, position.y, size.width, size.height⟩

def ofEdges (left top right bottom : Float32) : Rect := ⟨left, top, right - left, bottom - top⟩

def position (r : Rect) : Point Float32 := ⟨r.x, r.y⟩

def size (r : Rect) : Size Float32 := ⟨r.width, r.height⟩

def right (r : Rect) : Float32 := r.x + r.width

def bottom (r : Rect) : Float32 := r.y + r.height

/-- The left and top edges belong to the rectangle, the other two do not. -/
def contains (r : Rect) (p : Point Float32) : Bool :=
  r.x ≤ p.x && p.x < r.right && r.y ≤ p.y && p.y < r.bottom

def offset (r : Rect) (d : Point Float32) : Rect := ⟨r.x + d.x, r.y + d.y, r.width, r.height⟩

end Rect

/-! ## Alignment in a parent -/

inductive Alignment where
  | leading
  | center
  | trailing
  deriving DecidableEq, Inhabited

/-- How far alignment moves a child along an axis. -/
def Alignment.correction (a : Alignment) (parent child : Float32) : Float32 :=
  match a with
  | .leading => 0
  | .center => (parent - child) * 0.5
  | .trailing => parent - child

end SkinLayout
