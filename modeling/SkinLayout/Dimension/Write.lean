import SkinLayout.Dimension.Node
import SkinLayout.Markup.Element
import SkinLayout.Number.Decimal
/-!
# Dimensions as markup

Each kind of node has its own element.  Optional names are written whenever they
are there, empty ones too; a padding of zero is left out.  An operator without a
left operand but with a right one gets a literal zero in the left place, because
a reader fills the places from the left.
-/
namespace SkinLayout

/-- An attribute that is written only if there is a value. -/
def optionalAttribute (key : String) : Option String → List (String × String)
  | none => []
  | some value => [(key, value)]

def paddingAttribute (x : Float32) : List (String × String) :=
  if x == 0 then [] else [("padding", Single.toText x)]

namespace FontMetric

def toElement (m : FontMetric) : Element :=
  ⟨"FontDim", optionalAttribute "widget" m.widget ++ optionalAttribute "font" m.font ++
    optionalAttribute "string" m.text ++ paddingAttribute m.padding ++
    [("type", m.measure.name)], []⟩

end FontMetric

namespace ImageMetric

def toElement (m : ImageMetric) : Element :=
  match m.source with
  | .named name => ⟨"ImageDim", [("name", name), ("dimension", m.measure.name)], []⟩
  | .property widget key =>
    ⟨"ImagePropertyDim", optionalAttribute "widget" widget ++
      [("name", key), ("dimension", m.measure.name)], []⟩

end ImageMetric

namespace WidgetMetric

def toElement (m : WidgetMetric) : Element :=
  ⟨"WidgetDim", optionalAttribute "widget" m.widget ++ [("dimension", m.role.name)], []⟩

end WidgetMetric

namespace PropertyMetric

def toElement (m : PropertyMetric) : Element :=
  ⟨"PropertyDim", optionalAttribute "widget" m.widget ++ [("name", m.property)] ++
    optionalAttribute "type" (m.axis.map fun a => a.role.name), []⟩

end PropertyMetric

namespace Node

def literalElement (x : Float32) : Element := ⟨"LiteralDim", [("value", Single.toText x)], []⟩

def toElement : Node → Element
  | .literal x => literalElement x
  | .unified u role =>
    ⟨"UnifiedDim", [("scale", Single.toText u.scale), ("offset", Single.toText u.offset),
      ("type", role.name)], []⟩
  | .font m => m.toElement
  | .image m => m.toElement
  | .widget m => m.toElement
  | .property m => m.toElement
  | .operation op none none => ⟨"OperatorDim", [("op", op.name)], []⟩
  | .operation op (some l) none => ⟨"OperatorDim", [("op", op.name)], [l.toElement]⟩
  | .operation op none (some r) =>
    ⟨"OperatorDim", [("op", op.name)], [literalElement 0, r.toElement]⟩
  | .operation op (some l) (some r) =>
    ⟨"OperatorDim", [("op", op.name)], [l.toElement, r.toElement]⟩
termination_by structural n => n

/-- The calls that write a node. -/
def calls (n : Node) : List Call := n.toElement.calls

end Node

namespace Dimension

def toElement (d : Dimension) : Element := ⟨"Dim", [("type", d.role.name)], [d.node.toElement]⟩

def calls (d : Dimension) : List Call := d.toElement.calls

end Dimension

namespace Area

def propertyElements : Option String → List Element
  | none => []
  | some name => [⟨"AreaProperty", [("name", name)], []⟩]

def toElement (a : Area) : Element :=
  ⟨"Area", [], propertyElements a.property ++ a.dimensions.map Dimension.toElement⟩

def calls (a : Area) : List Call := a.toElement.calls

end Area

end SkinLayout
