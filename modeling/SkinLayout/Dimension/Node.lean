import SkinLayout.Dimension.Operator
import SkinLayout.Unified.Basic
/-!
# Dimensions

A dimension is a tree: its leaves are numbers, unified lengths and measures of
fonts, images, widgets and properties, and its inner nodes are operators with up
to two operands.  Paths to widgets are optional; an absent or an empty one means
the widget that the dimension belongs to.

An area is four dimensions with roles, and optionally the name of a property that
overrides them.
-/
namespace SkinLayout

structure FontMetric where
  widget : Option String
  font : Option String
  text : Option String
  measure : FontMeasure
  padding : Float32
  deriving BEq, DecidableEq

structure ImageMetric where
  source : ImageSource
  measure : ImageMeasure
  deriving BEq, DecidableEq

structure WidgetMetric where
  widget : Option String
  role : Role
  deriving BEq, DecidableEq

/-- With an axis the property holds a unified length, to be resolved along it. -/
structure PropertyMetric where
  widget : Option String
  property : String
  axis : Option Axis
  deriving BEq, DecidableEq

inductive Node where
  | literal (value : Float32)
  | unified (length : Unified) (role : Role)
  | font (metric : FontMetric)
  | image (metric : ImageMetric)
  | widget (metric : WidgetMetric)
  | property (metric : PropertyMetric)
  | operation (op : Operator) (left right : Option Node)
  deriving Inhabited

namespace Node

/-- Induction over dimensions; of an operator's operands, those that are there. -/
theorem induction {P : Node → Prop}
    (literal : ∀ value, P (.literal value))
    (unified : ∀ length role, P (.unified length role))
    (font : ∀ metric, P (.font metric))
    (image : ∀ metric, P (.image metric))
    (widget : ∀ metric, P (.widget metric))
    (property : ∀ metric, P (.property metric))
    (operation : ∀ op left right, (∀ n, left = some n → P n) → (∀ n, right = some n → P n) →
      P (.operation op left right)) (n : Node) : P n := by
  refine Node.rec (motive_1 := P) (motive_2 := fun o => ∀ n, o = some n → P n)
    literal unified font image widget property operation ?_ ?_ n
  · intro n h; cases h
  · intro n hn m h; cases h; exact hn

/-- An operand by whether it is there, as the induction has it. -/
@[elab_as_elim]
theorem operand_cases {P : Option Node → Prop} (o : Option Node) (hnone : P none)
    (hsome : ∀ n, o = some n → P (some n)) : P o := by
  cases o with
  | none => exact hnone
  | some n => exact hsome n rfl

/-! ## Height and equality -/

mutual

/-- Levels of the tree: one for a leaf. -/
def height : Node → Nat
  | .operation _ left right => 1 + max (operandHeight left) (operandHeight right)
  | _ => 1

def operandHeight : Option Node → Nat
  | none => 0
  | some n => n.height

end

mutual

/-- Equality that compares numbers as numbers: the zeros are equal, and a
not-a-number differs from itself. -/
def same : Node → Node → Bool
  | .literal a, .literal b => a == b
  | .unified a r, .unified b s => a == b && r == s
  | .font a, .font b => a == b
  | .image a, .image b => a == b
  | .widget a, .widget b => a == b
  | .property a, .property b => a == b
  | .operation o l r, .operation p l' r' => o == p && sameOperand l l' && sameOperand r r'
  | _, _ => false

def sameOperand : Option Node → Option Node → Bool
  | none, none => true
  | some a, some b => a.same b
  | _, _ => false

end

instance : BEq Node := ⟨same⟩

end Node

/-! ## Operators under construction -/

/-- An operator and its operand slots, filled from the left. -/
structure Operation where
  op : Operator
  left : Option Node
  right : Option Node

namespace Operation

def ofOperator (op : Operator) : Operation := ⟨op, none, none⟩

def toNode (o : Operation) : Node := .operation o.op o.left o.right

/-- Fills the next free slot; there is none for a third operand. -/
def addOperand (o : Operation) (n : Node) : Except LayoutError Operation :=
  match o.left, o.right with
  | none, _ => .ok { o with left := some n }
  | some _, none => .ok { o with right := some n }
  | some _, some _ => .error .operandSlotsFull

/-- The finished node; the invalid operator makes none. -/
def build (o : Operation) : Except LayoutError Node :=
  if o.op = .invalid then .error (.invalidRequest .unbuildableOperator) else .ok o.toNode

end Operation

/-! ## Dimensions with roles, and areas -/

structure Dimension where
  role : Role
  node : Node
  deriving BEq, Inhabited

namespace Dimension

def height (d : Dimension) : Nat := 1 + d.node.height

end Dimension

/-- `right` is the right edge or the width, by its role, and `bottom` the bottom
edge or the height. -/
structure Area where
  left : Dimension
  top : Dimension
  right : Dimension
  bottom : Dimension
  property : Option String
  deriving BEq

namespace Area

/-- The whole of the widget. -/
def whole : Area where
  left := ⟨.leftEdge, .literal 0⟩
  top := ⟨.topEdge, .literal 0⟩
  right := ⟨.width, .unified .full .width⟩
  bottom := ⟨.height, .unified .full .height⟩
  property := none

instance : Inhabited Area := ⟨whole⟩

/-- The four dimensions, in the order in which they are written and asked. -/
def dimensions (a : Area) : List Dimension := [a.left, a.top, a.right, a.bottom]

end Area

end SkinLayout
