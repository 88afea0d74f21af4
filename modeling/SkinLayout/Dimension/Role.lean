import SkinLayout.Geometry
/-!
# Roles

What a dimension stands for, and the axis it is measured along.  Each role has one
written name; `Role.ofName?` also knows two older names for the near edges.
-/
namespace SkinLayout

inductive Role where
  | leftEdge
  | topEdge
  | rightEdge
  | bottomEdge
  | width
  | height
  | xOffset
  | yOffset
  | invalid
  deriving DecidableEq, Inhabited, Repr

namespace Role

def name : Role → String
  | .leftEdge => "LeftEdge"
  | .topEdge => "TopEdge"
  | .rightEdge => "RightEdge"
  | .bottomEdge => "BottomEdge"
  | .width => "Width"
  | .height => "Height"
  | .xOffset => "XOffset"
  | .yOffset => "YOffset"
  | .invalid => "Invalid"

/-- The role of a name.  No name stands for the invalid role, its own neither. -/
def ofName? (s : String) : Option Role :=
  match s with
  | "LeftEdge" | "XPosition" => some .leftEdge
  | "TopEdge" | "YPosition" => some .topEdge
  | "RightEdge" => some .rightEdge
  | "BottomEdge" => some .bottomEdge
  | "Width" => some .width
  | "Height" => some .height
  | "XOffset" => some .xOffset
  | "YOffset" => some .yOffset
  | _ => none

/-- The axis a role measures along; the invalid role has none. -/
def axis? : Role → Option Axis
  | .leftEdge | .rightEdge | .width | .xOffset => some .horizontal
  | .topEdge | .bottomEdge | .height | .yOffset => some .vertical
  | .invalid => none

theorem ofName?_name {r : Role} (h : r ≠ .invalid) : ofName? r.name = some r := by
  cases r <;> first | rfl | exact absurd rfl h

end Role

/-- The role that is an extent along the axis. -/
def Axis.role : Axis → Role
  | .horizontal => .width
  | .vertical => .height

theorem Axis.axis?_role (a : Axis) : a.role.axis? = some a := by cases a <;> rfl

end SkinLayout
