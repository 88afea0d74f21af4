import SkinLayout.Dimension.Evaluate
/-!
# Evaluation that need not end

Where parents go round in a ring, the walk that a size comes from has no end, and neither has what
is computed from that size.  An attempt at a value keeps to this: it has no outcome if a size that
it asks for is not there.  It asks in the order of evaluation, and for nothing after an error.
-/
namespace SkinLayout

/-! ## Attempts -/

/-- A computation that has an outcome, or else no end. -/
structure Attempt (α : Type) where
  outcome? : Option (Outcome α)

namespace Attempt

variable {α β : Type}

def ofOutcome (x : Outcome α) : Attempt α := ⟨some x⟩

/-- What is computed from a size that may not be there. -/
def ofSize (s : Option (Size Float32)) (f : Size Float32 → α) : Attempt α :=
  ⟨s.map fun s => pure (f s)⟩

/-- What follows an outcome; an error is followed by nothing. -/
def andThen (x : Attempt α) (f : α → Attempt β) : Attempt β :=
  ⟨x.outcome?.bind fun o =>
    match o.result with
    | .error e => some ⟨.error e, o.events⟩
    | .ok a => (f a).outcome?.map fun y => ⟨y.result, o.events ++ y.events⟩⟩

instance : Monad Attempt where
  pure a := ofOutcome (pure a)
  bind := andThen

end Attempt

/-! ## Lengths -/

/-- The pixels of a unified length along the axis of its role; without an axis no size is asked
for. -/
def Unified.attempt (u : Unified) (role : Role) (size? : Option (Size Float32)) : Attempt Float32 :=
  match role.axis? with
  | some axis => .ofSize size? fun s => u.toPixels true (axis.extent s)
  | none => .ofOutcome (Outcome.refuse .unresolvableRole)

namespace WidgetMetric

/-- The measure of a widget: extents are taken from its own size, edges from the size around it. -/
def attemptOn (role : Role) (w : View) : Attempt Float32 :=
  match role with
  | .width => .ofSize w.pixelSize? fun s => s.width
  | .height => .ofSize w.pixelSize? fun s => s.height
  | .leftEdge => .ofSize w.parentSize? fun s => w.widget.area.position.x.toPixels true s.width
  | .topEdge => .ofSize w.parentSize? fun s => w.widget.area.position.y.toPixels true s.height
  | .rightEdge => .ofSize w.parentSize? fun s => w.widget.area.max.x.toPixels true s.width
  | .bottomEdge => .ofSize w.parentSize? fun s => w.widget.area.max.y.toPixels true s.height
  | .xOffset | .yOffset | .invalid => .ofOutcome (measured role w)

def attempt (m : WidgetMetric) (v : View) : Attempt Float32 :=
  match v.target? m.widget with
  | some w => attemptOn m.role w
  | none => .ofOutcome (m.evaluate v)

end WidgetMetric

namespace PropertyMetric

/-- The number in a property: a size is asked for if the property is there and holds a length. -/
def attemptOn (m : PropertyMetric) (w : View) : Attempt Float32 :=
  match w.property? m.property, m.axis with
  | some p, some axis =>
    match Unified.ofChars p.value.toList with
    | .ok u => .ofSize w.pixelSize? fun s => u.toPixels true (axis.extent s)
    | .error _ => .ofOutcome (Outcome.ofLogged (m.valueOn w))
  | _, _ => .ofOutcome (Outcome.ofLogged (m.valueOn w))

def attempt (m : PropertyMetric) (v : View) : Attempt Float32 :=
  match v.target? m.widget with
  | some w => m.attemptOn w
  | none => .ofOutcome (Outcome.ofLogged (m.evaluate v))

end PropertyMetric

/-! ## Nodes -/

namespace Node

mutual

/-- The value of a node for a widget, with unified lengths in a size of their own. -/
def attemptWith (size? : Option (Size Float32)) (v : View) : Node → Attempt Float32
  | .literal x => pure x
  | .unified u role => u.attempt role size?
  | .font m => .ofOutcome (Outcome.ofLogged (m.evaluate v))
  | .image m => .ofOutcome (Outcome.ofLogged (m.evaluate v))
  | .widget m => m.attempt v
  | .property m => m.attempt v
  | .operation op left right => do
    let x ← attemptOperand size? v left
    let y ← attemptOperand size? v right
    .ofOutcome (Outcome.ofAnswer (op.apply x y))

def attemptOperand (size? : Option (Size Float32)) (v : View) : Option Node → Attempt Float32
  | none => pure 0
  | some n => n.attemptWith size? v

end

/-- The value of a node for a widget. -/
def attempt (n : Node) (v : View) : Attempt Float32 := n.attemptWith v.pixelSize? v

/-- The value of a node for a widget, with a rectangle in the widget's place for unified lengths. -/
def attemptIn (n : Node) (v : View) (r : Rect) : Attempt Float32 := n.attemptWith (some r.size) v

end Node

/-! ## Areas -/

namespace Area

/-- The rectangle of an area in a size, before it is moved anywhere. -/
def attemptWith (a : Area) (size? : Option (Size Float32)) (v : View) : Attempt Rect := do
  match ← Attempt.ofOutcome (Outcome.ofLogged (a.propertyRect v)) with
  | some r => .ofSize size? fun s => r.toPixels true s
  | none => a.combined fun d => d.node.attemptWith size? v

/-- The area of a widget, relative to the widget. -/
def attempt (a : Area) (v : View) : Attempt Rect := a.attemptWith v.pixelSize? v

/-- The area in a container, where the container is. -/
def attemptIn (a : Area) (v : View) (container : Rect) : Attempt Rect := do
  let inside ← a.attemptWith (some container.size) v
  return inside.offset container.position

end Area

end SkinLayout
