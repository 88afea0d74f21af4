/-!
# What is measured of fonts and images

The measures, their written names, and where an image is found.
-/
namespace SkinLayout

inductive FontMeasure where
  | lineSpacing
  | baseline
  | textExtent
  deriving DecidableEq, Inhabited, Repr

namespace FontMeasure

def name : FontMeasure → String
  | .lineSpacing => "LineSpacing"
  | .baseline => "Baseline"
  | .textExtent => "HorzExtent"

def ofName? (s : String) : Option FontMeasure :=
  match s with
  | "LineSpacing" => some .lineSpacing
  | "Baseline" => some .baseline
  | "HorzExtent" => some .textExtent
  | _ => none

end FontMeasure

inductive ImageMeasure where
  | width
  | height
  | xOffset
  | yOffset
  deriving DecidableEq, Inhabited, Repr

namespace ImageMeasure

def name : ImageMeasure → String
  | .width => "Width"
  | .height => "Height"
  | .xOffset => "XOffset"
  | .yOffset => "YOffset"

def ofName? (s : String) : Option ImageMeasure :=
  match s with
  | "Width" => some .width
  | "Height" => some .height
  | "XOffset" | "XPosition" => some .xOffset
  | "YOffset" | "YPosition" => some .yOffset
  | _ => none

end ImageMeasure

/-- Where a dimension finds its image: by name, or by the name that a property
holds, of the widget itself or of one below it. -/
inductive ImageSource where
  | named (name : String)
  | property (widget : Option String) (key : String)
  deriving DecidableEq, Inhabited

end SkinLayout
