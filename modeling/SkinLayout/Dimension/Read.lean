import SkinLayout.Dimension.Node
import SkinLayout.Markup.Attributes
/-!
# Dimensions from markup

The readers take what the writers produce, and more: blanks around values, older
names, attributes in any order, unknown attributes.  Nesting is limited; each
element counts as a level, and one that is too deep is refused before anything
else is looked at.
-/
namespace SkinLayout

/-- The nesting that is allowed where nothing else is asked for. -/
def defaultNesting : Nat := 32

/-! ## Attributes with names for values -/

namespace Element

def role (e : Element) (key : String) : Outcome Role := do
  let raw ← Outcome.ofExcept (e.required key)
  Outcome.ofLogged (Role.ofText raw)

/-- A font measure by name; a wrong name is a fault of the attribute. -/
def fontMeasure (e : Element) (key : String) : Except LayoutError FontMeasure := do
  let raw ← e.required key
  match FontMeasure.ofText raw with
  | .ok m => .ok m
  | .error _ => .error (e.invalid key raw)

def imageMeasure (e : Element) (key : String) : Except LayoutError ImageMeasure := do
  let raw ← e.required key
  match ImageMeasure.ofText raw with
  | .ok m => .ok m
  | .error _ => .error (e.invalid key raw)

def operatorD (e : Element) (key : String) (default : Operator) : Logged Operator :=
  match e.attribute? key with
  | some raw => Operator.ofText raw
  | none => pure default

/-- The axis of an extent role; left out, there is none, and other roles have no
place here. -/
def axis? (e : Element) (key : String) : Outcome (Option Axis) :=
  match e.attribute? key with
  | none => pure none
  | some raw => do
    let role ← Outcome.ofLogged (Role.ofText raw)
    match role with
    | .width => pure (some .horizontal)
    | .height => pure (some .vertical)
    | _ => Outcome.fail (e.invalid key raw)

end Element

/-! ## Leaves -/

def FontMetric.read (e : Element) : Except LayoutError FontMetric := do
  let measure ← e.fontMeasure "type"
  let padding ← e.floatD "padding" 0
  return ⟨e.optional? "widget", e.optional? "font", e.optional? "string", measure, padding⟩

def ImageMetric.readNamed (e : Element) : Except LayoutError ImageMetric := do
  let measure ← e.imageMeasure "dimension"
  let name ← e.required "name"
  return ⟨.named name, measure⟩

def ImageMetric.readProperty (e : Element) : Except LayoutError ImageMetric := do
  let measure ← e.imageMeasure "dimension"
  let name ← e.required "name"
  return ⟨.property (e.optional? "widget") name, measure⟩

def WidgetMetric.read (e : Element) : Outcome WidgetMetric := do
  let role ← e.role "dimension"
  return ⟨e.optional? "widget", role⟩

def PropertyMetric.read (e : Element) : Outcome PropertyMetric := do
  let axis ← e.axis? "type"
  let name ← Outcome.ofExcept (e.required "name")
  return ⟨e.optional? "widget", name, axis⟩

/-- Reads every kind of node but the operators. -/
def Node.readLeaf (e : Element) : Outcome Node :=
  match e.name with
  | "LiteralDim" => do
    let x ← Outcome.ofExcept (e.float "value")
    return .literal x
  | "UnifiedDim" => do
    let scale ← Outcome.ofExcept (e.floatD "scale" 0)
    let offset ← Outcome.ofExcept (e.floatD "offset" 0)
    let role ← e.role "type"
    return .unified ⟨scale, offset⟩ role
  | "FontDim" => do
    let m ← Outcome.ofExcept (FontMetric.read e)
    return .font m
  | "ImageDim" => do
    let m ← Outcome.ofExcept (ImageMetric.readNamed e)
    return .image m
  | "ImagePropertyDim" => do
    let m ← Outcome.ofExcept (ImageMetric.readProperty e)
    return .image m
  | "WidgetDim" => do
    let m ← WidgetMetric.read e
    return .widget m
  | "PropertyDim" => do
    let m ← PropertyMetric.read e
    return .property m
  | _ => Outcome.fail (.unexpectedElement "dimension" e.name)

/-! ## Trees -/

mutual

/-- Reads the node that stands `depth` levels deep. -/
def Node.readAt (limit depth : Nat) : Element → Outcome Node
  | ⟨name, attributes, children⟩ =>
    if limit ≤ depth then Outcome.fail (.nestingTooDeep limit)
    else if name = "OperatorDim" then do
      let op ← Outcome.ofLogged (Element.operatorD ⟨name, attributes, children⟩ "op" .noop)
      let o ← Node.readOperands limit (depth + 1) (Operation.ofOperator op) children
      return o.toNode
    else Node.readLeaf ⟨name, attributes, children⟩

/-- Reads the operands that are left, each before it is given a place. -/
def Node.readOperands (limit depth : Nat) (o : Operation) : List Element → Outcome Operation
  | [] => pure o
  | e :: es => do
    let n ← Node.readAt limit depth e
    let o ← Outcome.ofExcept (o.addOperand n)
    Node.readOperands limit depth o es

end

def Node.read (limit : Nat) (e : Element) : Outcome Node := Node.readAt limit 0 e

/-- The name is looked at before the depth, and the role before the child. -/
def Dimension.readAt (limit depth : Nat) (e : Element) : Outcome Dimension := do
  Outcome.ofExcept (e.expectName "Dim")
  if limit ≤ depth then Outcome.fail (.nestingTooDeep limit)
  else
    let role ← e.role "type"
    match e.children with
    | [] => Outcome.fail (.missingChild e.name)
    | child :: _ =>
      let node ← Node.readAt limit (depth + 1) child
      return ⟨role, node⟩

def Dimension.read (limit : Nat) (e : Element) : Outcome Dimension := Dimension.readAt limit 0 e

namespace Area

/-- Puts a dimension on the side that its role names. -/
def place (a : Area) (d : Dimension) : Option Area :=
  match d.role with
  | .leftEdge => some { a with left := d }
  | .topEdge => some { a with top := d }
  | .rightEdge | .width => some { a with right := d }
  | .bottomEdge | .height => some { a with bottom := d }
  | .xOffset | .yOffset | .invalid => none

/-- Takes one child of an area into it; a later child replaces an earlier one. -/
def readChild (limit : Nat) (a : Area) (e : Element) : Outcome Area :=
  if e.name = "AreaProperty" then do
    let name ← Outcome.ofExcept (e.required "name")
    return { a with property := some name }
  else do
    let d ← Dimension.readAt limit 1 e
    match a.place d with
    | some a => pure a
    | none => Outcome.fail (e.invalid "type" d.role.name)

def readChildren (limit : Nat) (a : Area) : List Element → Outcome Area
  | [] => pure a
  | e :: es => do
    let a ← a.readChild limit e
    readChildren limit a es

/-- Reads an area.  Sides that no child sets are those of the whole widget. -/
def read (limit : Nat) (e : Element) : Outcome Area := do
  Outcome.ofExcept (e.expectName "Area")
  readChildren limit whole e.children

end Area

end SkinLayout
