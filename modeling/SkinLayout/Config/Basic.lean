import SkinLayout.Dimension.Read
import SkinLayout.Widget.Basic
/-!
# Skin configurations

The size of the display, how layout rounds and how deep markup may nest, and the
fonts and images there are.  `Config.fault?` says what makes one unusable.
-/
namespace SkinLayout

/-- A font as configured; metrics that are left out follow from the native size. -/
structure FontConfig where
  name : String
  nativeSize : Float32
  pointSize : Option Float32
  lineSpacing : Option Float32
  baseline : Option Float32
  advance : Option Float32
  deriving DecidableEq

structure ImageConfig where
  name : String
  width : Float32
  height : Float32
  offsetX : Float32
  offsetY : Float32
  deriving DecidableEq

structure Config where
  displayWidth : Float32
  displayHeight : Float32
  pixelAlign : Bool
  maxNesting : Nat
  fonts : List FontConfig
  images : List ImageConfig
  deriving DecidableEq

namespace Config

def default : Config where
  displayWidth := 1280
  displayHeight := 720
  pixelAlign := true
  maxNesting := defaultNesting
  fonts := []
  images := []

instance : Inhabited Config := ⟨default⟩

def displaySize (c : Config) : Size Float32 := ⟨c.displayWidth, c.displayHeight⟩

/-- The first thing wrong with a configuration. -/
def fault? (c : Config) : Option ConfigFault :=
  if c.displayWidth < 0 ∨ c.displayHeight < 0 then
    some (.negativeDisplay c.displayWidth c.displayHeight)
  else if c.maxNesting = 0 then some .zeroNesting
  else (c.fonts.find? fun f => f.nativeSize ≤ 0).map fun f => .nonPositiveFont f.name

end Config

/-! ## What a configuration sets up -/

def Font.ofConfig (f : FontConfig) : Font :=
  let usual := Font.ofSize f.nativeSize
  { usual with
    pointSize := f.pointSize.getD usual.pointSize
    nativeSpacing := f.lineSpacing.getD usual.nativeSpacing
    nativeBaseline := f.baseline.getD usual.nativeBaseline
    advance := f.advance.getD usual.advance }

def Image.ofConfig (i : ImageConfig) : Image := ⟨⟨i.width, i.height⟩, ⟨i.offsetX, i.offsetY⟩⟩

/-- Of several fonts or images of one name the last counts. -/
def Resources.ofConfig (c : Config) : Resources :=
  let r := Resources.ofDisplay c.displaySize
  let r := c.fonts.foldl (fun r f => r.addFont f.name (.ofConfig f)) r
  c.images.foldl (fun r i => r.addImage i.name (.ofConfig i)) r

def Tree.ofConfig (c : Config) : Tree :=
  { Tree.ofResources (.ofConfig c) with alignPixels := c.pixelAlign }

end SkinLayout
