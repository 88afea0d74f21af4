import SkinLayout.Dimension.Node
import SkinLayout.Unified.Text
import SkinLayout.Widget.View
/-!
# Evaluating dimensions

A dimension is evaluated for a widget in its tree.  Missing fonts, images, widgets
and properties give a defined value and an event; only the invalid operator, and
the invalid role where a role is needed, are errors.

`Node.evaluateIn` resolves unified lengths against a given rectangle instead of
the widget; nothing else depends on it.
-/
namespace SkinLayout

/-! ## Fonts -/

namespace FontMetric

/-- The font to measure: the one named, or else that of the target widget. -/
def font? (m : FontMetric) (v : View) : Option (String × Font) :=
  match m.font.filter fun name => name ≠ "" with
  | some name => (v.tree.resources.fonts.get? name).map fun f => (name, f)
  | none => (v.target? m.widget).bind View.font?

/-- The text to measure: the one given, or else that of the target widget. -/
def text? (m : FontMetric) (v : View) : Option String :=
  match m.text.filter fun text => text ≠ "" with
  | some text => some text
  | none => (v.target? m.widget).map fun w => w.widget.text

def measured (m : FontMetric) (v : View) (f : Font) : Float32 :=
  match m.measure with
  | .lineSpacing => f.lineSpacing
  | .baseline => f.baseline
  | .textExtent =>
    match m.text? v with
    | some text => f.textExtent text
    | none => 0

def evaluate (m : FontMetric) (v : View) : Logged Float32 :=
  match m.font? v with
  | none => do
    Logged.report (.fontMissing m.measure v.name)
    return m.padding
  | some (_, f) => pure (m.measured v f + m.padding)

end FontMetric

/-! ## Images -/

def ImageMeasure.of (m : ImageMeasure) (i : Image) : Float32 :=
  match m with
  | .width => i.size.width
  | .height => i.size.height
  | .xOffset => i.offset.x
  | .yOffset => i.offset.y

/-- The name of the image, as far as there is one. -/
def ImageSource.name? (s : ImageSource) (v : View) : Option String :=
  match s with
  | .named name => some name
  | .property widget key => ((v.target? widget).bind fun w => w.property? key).map Property.value

def ImageMetric.evaluate (m : ImageMetric) (v : View) : Logged Float32 :=
  match (m.source.name? v).bind v.tree.resources.images.get? with
  | some i => pure (m.measure.of i)
  | none => do
    Logged.report (.imageMissing m.source)
    return 0

/-! ## Widgets -/

namespace WidgetMetric

/-- The measure of a widget.  Edges are edges of its area in its parent, without
any alignment. -/
def measured (role : Role) (w : View) : Outcome Float32 :=
  match role with
  | .width => pure w.pixelSize.width
  | .height => pure w.pixelSize.height
  | .leftEdge => pure (w.widget.area.position.x.toPixels true w.parentSize.width)
  | .topEdge => pure (w.widget.area.position.y.toPixels true w.parentSize.height)
  | .rightEdge => pure (w.widget.area.max.x.toPixels true w.parentSize.width)
  | .bottomEdge => pure (w.widget.area.max.y.toPixels true w.parentSize.height)
  | .xOffset | .yOffset => do
    Outcome.report (.roleUnmeasured role)
    return 0
  | .invalid => Outcome.refuse (.unmeasurableRole w.name)

def evaluate (m : WidgetMetric) (v : View) : Outcome Float32 :=
  match v.target? m.widget with
  | some w => measured m.role w
  | none => do
    Outcome.report (.childMissing v.name (m.widget.getD ""))
    return 0

end WidgetMetric

/-! ## Properties -/

/-- Equality of texts up to the case of the letters A to Z. -/
def sameLetters (s t : List Char) : Bool := s.map Char.toLower == t.map Char.toLower

namespace PropertyMetric

/-- The number that a property stands for: a truth value as one or zero, or any
other text as a number. -/
def plainValue (key : String) (p : Property) : Logged Float32 :=
  if p.kind = "bool" then
    pure (if sameLetters (trim p.value.toList) ['t', 'r', 'u', 'e'] then 1 else 0)
  else
    match Single.ofChars? (trim p.value.toList) with
    | some x => pure x
    | none => do
      Logged.report (.propertyNotNumber key p.value)
      return 0

/-- The pixels of the unified length in a property, along an axis of its widget. -/
def lengthValue (key : String) (p : Property) (axis : Axis) (w : View) : Logged Float32 :=
  match Unified.ofChars p.value.toList with
  | .ok u => pure (u.toPixels true (axis.extent w.pixelSize))
  | .error fault => do
    Logged.report (.propertyNotUnified key p.value fault)
    return 0

def valueOn (m : PropertyMetric) (w : View) : Logged Float32 :=
  match w.property? m.property with
  | none => do
    Logged.report (.propertyMissing w.name m.property)
    return 0
  | some p =>
    match m.axis with
    | none => plainValue m.property p
    | some axis => lengthValue m.property p axis w

def evaluate (m : PropertyMetric) (v : View) : Logged Float32 :=
  match v.target? m.widget with
  | some w => m.valueOn w
  | none => do
    Logged.report (.propertyChildMissing v.name (m.widget.getD ""))
    return 0

end PropertyMetric

/-! ## Nodes -/

/-- The pixels of a unified length along the axis of its role. -/
def Unified.along (u : Unified) (role : Role) (size : Size Float32) : Except LayoutError Float32 :=
  match role.axis? with
  | some axis => .ok (u.toPixels true (axis.extent size))
  | none => .error (.invalidRequest .unresolvableRole)

namespace Node

mutual

/-- The value of a node for a widget. -/
def evaluate (v : View) : Node → Outcome Float32
  | .literal x => pure x
  | .unified u role => Outcome.ofExcept (u.along role v.pixelSize)
  | .font m => Outcome.ofLogged (m.evaluate v)
  | .image m => Outcome.ofLogged (m.evaluate v)
  | .widget m => m.evaluate v
  | .property m => Outcome.ofLogged (m.evaluate v)
  | .operation op left right => do
    let x ← evaluateOperand v left
    let y ← evaluateOperand v right
    Outcome.ofAnswer (op.apply x y)

/-- A missing operand counts as zero. -/
def evaluateOperand (v : View) : Option Node → Outcome Float32
  | none => pure 0
  | some n => n.evaluate v

end

mutual

/-- The value of a node for a widget, with a rectangle in the widget's place for
unified lengths. -/
def evaluateIn (v : View) (r : Rect) : Node → Outcome Float32
  | .unified u role => Outcome.ofExcept (u.along role r.size)
  | .operation op left right => do
    let x ← evaluateOperandIn v r left
    let y ← evaluateOperandIn v r right
    Outcome.ofAnswer (op.apply x y)
  | n => n.evaluate v

def evaluateOperandIn (v : View) (r : Rect) : Option Node → Outcome Float32
  | none => pure 0
  | some n => n.evaluateIn v r

end

end Node

/-! ## Dimensions and areas -/

namespace Dimension

def evaluate (d : Dimension) (v : View) : Outcome Float32 := d.node.evaluate v

def evaluateIn (d : Dimension) (v : View) (r : Rect) : Outcome Float32 := d.node.evaluateIn v r

end Dimension

namespace Area

/-- The rectangle that the area's property holds, if it has one that does. -/
def propertyRect (a : Area) (v : View) : Logged (Option UnifiedRect) :=
  match a.property with
  | none => pure none
  | some key =>
    match v.property? key with
    | none => do
      Logged.report (.areaPropertyMissing v.name key)
      return none
    | some p =>
      match UnifiedRect.ofChars p.value.toList with
      | .ok r => pure (some r)
      | .error fault => do
        Logged.report (.areaPropertyNotRect key p.value fault)
        return none

/-- The rectangle of the four dimensions.  A far edge is turned into an extent. -/
def combined {m : Type → Type} [Monad m] (a : Area) (value : Dimension → m Float32) : m Rect := do
  let left ← value a.left
  let top ← value a.top
  let right ← value a.right
  let bottom ← value a.bottom
  return ⟨left, top, if a.right.role = .rightEdge then right - left else right,
    if a.bottom.role = .bottomEdge then bottom - top else bottom⟩

/-- The area of a widget, relative to the widget. -/
def pixelRect (a : Area) (v : View) : Outcome Rect := do
  match ← Outcome.ofLogged (a.propertyRect v) with
  | some r => return r.toPixels true v.pixelSize
  | none => a.combined fun d => d.evaluate v

/-- The area in a container, where the container is. -/
def pixelRectIn (a : Area) (v : View) (container : Rect) : Outcome Rect := do
  let inside ← match ← Outcome.ofLogged (a.propertyRect v) with
    | some r => pure (r.toPixels true container.size)
    | none => a.combined fun d => d.evaluateIn v container
  return inside.offset container.position

end Area

end SkinLayout
