import SkinLayout.Dimension.Evaluate
/-!
# Which fonts a dimension reads

When a font changes size, whatever was measured with it is out of date.  A
dimension reads a font if a font metric anywhere in it resolves to that font for
the widget; the measure asked for does not matter.
-/
namespace SkinLayout

def FontMetric.readsFont (m : FontMetric) (v : View) (font : String) : Bool :=
  (m.font? v).any fun f => f.1 == font

namespace Node

mutual

def readsFont (v : View) (font : String) : Node → Bool
  | .font m => m.readsFont v font
  | .operation _ left right => operandReadsFont v font left || operandReadsFont v font right
  | _ => false

def operandReadsFont (v : View) (font : String) : Option Node → Bool
  | none => false
  | some n => n.readsFont v font

end

end Node

def Dimension.readsFont (d : Dimension) (v : View) (font : String) : Bool :=
  d.node.readsFont v font

/-- The property that may override the dimensions reads no font. -/
def Area.readsFont (a : Area) (v : View) (font : String) : Bool :=
  a.dimensions.any fun d => d.readsFont v font

end SkinLayout
