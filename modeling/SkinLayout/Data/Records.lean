import SkinLayout.Dimension.Node
import SkinLayout.Data.Datum
/-!
# Geometry and dimensions as data

Each type has one form as a record.  A choice is a name, or a field of that name
with what belongs to the case.  Reading is strict: every field has to be there but
those that may be null, and has to be of its kind.
-/
namespace SkinLayout

/-! ## Geometry -/

def Unified.ofDatum? (d : Datum) : Option Unified := do
  let r ← d.record? 2 ["scale", "offset"]
  let scale ← Datum.required? Datum.float? "scale" r
  let offset ← Datum.required? Datum.float? "offset" r
  return ⟨scale, offset⟩

def Unified.toDatum (u : Unified) : Datum :=
  .fields [("scale", .number u.scale), ("offset", .number u.offset)]

def Point.ofDatum? {α : Type} (read : Datum → Option α) (d : Datum) : Option (Point α) := do
  let r ← d.record? 2 ["x", "y"]
  let x ← Datum.required? read "x" r
  let y ← Datum.required? read "y" r
  return ⟨x, y⟩

def Point.toDatum {α : Type} (write : α → Datum) (p : Point α) : Datum :=
  .fields [("x", write p.x), ("y", write p.y)]

def Size.ofDatum? {α : Type} (read : Datum → Option α) (d : Datum) : Option (Size α) := do
  let r ← d.record? 2 ["width", "height"]
  let width ← Datum.required? read "width" r
  let height ← Datum.required? read "height" r
  return ⟨width, height⟩

def Size.toDatum {α : Type} (write : α → Datum) (s : Size α) : Datum :=
  .fields [("width", write s.width), ("height", write s.height)]

def UnifiedRect.ofDatum? (d : Datum) : Option UnifiedRect := do
  let r ← d.record? 2 ["min", "max"]
  let min ← Datum.required? (Point.ofDatum? Unified.ofDatum?) "min" r
  let max ← Datum.required? (Point.ofDatum? Unified.ofDatum?) "max" r
  return ⟨min, max⟩

def UnifiedRect.toDatum (r : UnifiedRect) : Datum :=
  .fields [("min", r.min.toDatum Unified.toDatum), ("max", r.max.toDatum Unified.toDatum)]

def Rect.ofDatum? (d : Datum) : Option Rect := do
  let r ← d.record? 4 ["x", "y", "width", "height"]
  let x ← Datum.required? Datum.float? "x" r
  let y ← Datum.required? Datum.float? "y" r
  let width ← Datum.required? Datum.float? "width" r
  let height ← Datum.required? Datum.float? "height" r
  return ⟨x, y, width, height⟩

def Rect.toDatum (r : Rect) : Datum :=
  .fields [("x", .number r.x), ("y", .number r.y), ("width", .number r.width),
    ("height", .number r.height)]

/-! ## Choices by name -/

def Alignment.recordName : Alignment → String
  | .leading => "Start"
  | .center => "Center"
  | .trailing => "End"

def Axis.recordName : Axis → String
  | .horizontal => "Horizontal"
  | .vertical => "Vertical"

def FontMeasure.recordName : FontMeasure → String
  | .lineSpacing => "LineSpacing"
  | .baseline => "Baseline"
  | .textExtent => "HorizontalExtent"

/-- The choice that a name stands for. -/
def Datum.choice? {α : Type} (all : List α) (name : α → String) (d : Datum) : Option α := do
  let s ← d.bareCase?
  all.find? fun a => name a == s

def Alignment.ofDatum? : Datum → Option Alignment :=
  Datum.choice? [.leading, .center, .trailing] recordName

def Axis.ofDatum? : Datum → Option Axis := Datum.choice? [.horizontal, .vertical] recordName

def Role.all : List Role :=
  [.leftEdge, .topEdge, .rightEdge, .bottomEdge, .width, .height, .xOffset, .yOffset, .invalid]

def Role.ofDatum? : Datum → Option Role := Datum.choice? all name

def Operator.all : List Operator := [.noop, .add, .subtract, .multiply, .divide, .invalid]

def Operator.ofDatum? : Datum → Option Operator := Datum.choice? all name

def FontMeasure.ofDatum? : Datum → Option FontMeasure :=
  Datum.choice? [.lineSpacing, .baseline, .textExtent] recordName

def ImageMeasure.ofDatum? : Datum → Option ImageMeasure :=
  Datum.choice? [.width, .height, .xOffset, .yOffset] name

/-! ## Leaves of dimensions -/

def FontMetric.ofDatum? (d : Datum) : Option FontMetric := do
  let r ← d.record? 5 ["widget", "font", "text", "metric", "padding"]
  let widget ← Datum.optional? Datum.text? "widget" r
  let font ← Datum.optional? Datum.text? "font" r
  let text ← Datum.optional? Datum.text? "text" r
  let measure ← Datum.required? FontMeasure.ofDatum? "metric" r
  let padding ← Datum.required? Datum.float? "padding" r
  return { widget, font, text, measure, padding }

def FontMetric.toDatum (m : FontMetric) : Datum :=
  .fields [("widget", Datum.ofOption .text m.widget), ("font", Datum.ofOption .text m.font),
    ("text", Datum.ofOption .text m.text), ("metric", .text m.measure.recordName),
    ("padding", .number m.padding)]

def ImageSource.ofDatum? (d : Datum) : Option ImageSource := do
  match ← d.case? with
  | ("Named", some body) => return .named (← body.text?)
  | ("Property", some body) =>
    let r ← body.fields?
    let widget ← Datum.optional? Datum.text? "widget" r
    let key ← Datum.required? Datum.text? "property" r
    return .property widget key
  | _ => none

def ImageSource.toDatum : ImageSource → Datum
  | .named name => .fields [("Named", .text name)]
  | .property widget key =>
    .fields [("Property", .fields
      [("widget", Datum.ofOption .text widget), ("property", .text key)])]

def ImageMetric.ofDatum? (d : Datum) : Option ImageMetric := do
  let r ← d.record? 2 ["source", "metric"]
  let source ← Datum.required? ImageSource.ofDatum? "source" r
  let measure ← Datum.required? ImageMeasure.ofDatum? "metric" r
  return { source, measure }

def ImageMetric.toDatum (m : ImageMetric) : Datum :=
  .fields [("source", m.source.toDatum), ("metric", .text m.measure.name)]

def WidgetMetric.ofDatum? (d : Datum) : Option WidgetMetric := do
  let r ← d.record? 2 ["widget", "role"]
  let widget ← Datum.optional? Datum.text? "widget" r
  let role ← Datum.required? Role.ofDatum? "role" r
  return { widget, role }

def WidgetMetric.toDatum (m : WidgetMetric) : Datum :=
  .fields [("widget", Datum.ofOption .text m.widget), ("role", .text m.role.name)]

def PropertyMetric.ofDatum? (d : Datum) : Option PropertyMetric := do
  let r ← d.record? 3 ["widget", "property", "axis"]
  let widget ← Datum.optional? Datum.text? "widget" r
  let property ← Datum.required? Datum.text? "property" r
  let axis ← Datum.optional? Axis.ofDatum? "axis" r
  return { widget, property, axis }

def PropertyMetric.toDatum (m : PropertyMetric) : Datum :=
  .fields [("widget", Datum.ofOption .text m.widget), ("property", .text m.property),
    ("axis", Datum.ofOption (fun a => .text a.recordName) m.axis)]

/-! ## Dimensions -/

mutual

/-- Levels of a datum, which bound the levels of what it describes. -/
def Datum.depth : Datum → Nat
  | .list _ items => 1 + Datum.depthOfItems items
  | .fields members => 1 + Datum.depthOfMembers members
  | _ => 1

def Datum.depthOfItems : List Datum → Nat
  | [] => 0
  | d :: ds => max d.depth (Datum.depthOfItems ds)

def Datum.depthOfMembers : List (String × Datum) → Nat
  | [] => 0
  | (_, d) :: ms => max d.depth (Datum.depthOfMembers ms)

end

namespace Node

/-- Reads a node of at most that many levels. -/
def ofDatumWith : Nat → Datum → Option Node
  | 0, _ => none
  | n + 1, d => do
    match ← d.case? with
    | ("Literal", some body) => return .literal (← body.float?)
    | ("Unified", some body) =>
      let r ← body.record? 2 ["value", "role"]
      let length ← Datum.required? Unified.ofDatum? "value" r
      let role ← Datum.required? Role.ofDatum? "role" r
      return .unified length role
    | ("FontMetric", some body) => return .font (← FontMetric.ofDatum? body)
    | ("ImageMetric", some body) => return .image (← ImageMetric.ofDatum? body)
    | ("WidgetMetric", some body) => return .widget (← WidgetMetric.ofDatum? body)
    | ("PropertyMetric", some body) => return .property (← PropertyMetric.ofDatum? body)
    | ("Operator", some body) =>
      let r ← body.record? 3 ["op", "left", "right"]
      let op ← Datum.required? Operator.ofDatum? "op" r
      let left ← Datum.optional? (ofDatumWith n) "left" r
      let right ← Datum.optional? (ofDatumWith n) "right" r
      return .operation op left right
    | _ => none

def ofDatum? (d : Datum) : Option Node := ofDatumWith d.depth d

mutual

def toDatum : Node → Datum
  | .literal x => .fields [("Literal", .number x)]
  | .unified u role =>
    .fields [("Unified", .fields [("value", u.toDatum), ("role", .text role.name)])]
  | .font m => .fields [("FontMetric", m.toDatum)]
  | .image m => .fields [("ImageMetric", m.toDatum)]
  | .widget m => .fields [("WidgetMetric", m.toDatum)]
  | .property m => .fields [("PropertyMetric", m.toDatum)]
  | .operation op left right =>
    .fields [("Operator", .fields [("op", .text op.name), ("left", operandToDatum left),
      ("right", operandToDatum right)])]

def operandToDatum : Option Node → Datum
  | none => .null
  | some n => n.toDatum

end

end Node

namespace Dimension

def ofDatum? (d : Datum) : Option Dimension := do
  let r ← d.record? 2 ["node", "role"]
  let node ← Datum.required? Node.ofDatum? "node" r
  let role ← Datum.required? Role.ofDatum? "role" r
  return { role, node }

def toDatum (d : Dimension) : Datum :=
  .fields [("node", d.node.toDatum), ("role", .text d.role.name)]

end Dimension

namespace Area

def fieldNames : List String :=
  ["left", "top", "right_or_width", "bottom_or_height", "area_property"]

def ofDatum? (d : Datum) : Option Area := do
  let r ← d.record? 5 fieldNames
  let left ← Datum.required? Dimension.ofDatum? "left" r
  let top ← Datum.required? Dimension.ofDatum? "top" r
  let right ← Datum.required? Dimension.ofDatum? "right_or_width" r
  let bottom ← Datum.required? Dimension.ofDatum? "bottom_or_height" r
  let property ← Datum.optional? Datum.text? "area_property" r
  return { left, top, right, bottom, property }

def toDatum (a : Area) : Datum :=
  .fields [("left", a.left.toDatum), ("top", a.top.toDatum), ("right_or_width", a.right.toDatum),
    ("bottom_or_height", a.bottom.toDatum), ("area_property", Datum.ofOption .text a.property)]

end Area

end SkinLayout
