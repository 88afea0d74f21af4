import SkinLayout.Widget.Basic
import SkinLayout.Text.Split
import SkinLayout.Unified.Pixels
/-!
# A widget seen in its tree

What a dimension may ask of the widget it belongs to: a widget below it by path,
its parent, its size in pixels and its place on screen.  Sizes come from above, so
both questions about pixels walk up the parents; names are looked up downwards.
-/
namespace SkinLayout

/-! ## Sizes -/

namespace Tree

/-- The pixel size of a widget, if the walk up its parents ends within a bound.  A number that is
in no tree has no size. -/
def pixelSizeWith? (t : Tree) : Nat → WidgetId → Option (Size Float32)
  | 0, _ => none
  | n + 1, id =>
    match t.get? id with
    | none => some ⟨0, 0⟩
    | some w =>
      (match w.parent with
      | none => some t.resources.display
      | some parent => t.pixelSizeWith? n parent).map (w.area.size.toPixels t.alignPixels)

/-- The pixel size of a widget.  There is none if the parents go round in a ring, which is to say
that the walk never ends: one that ends meets no widget twice. -/
def pixelSize? (t : Tree) (id : WidgetId) : Option (Size Float32) :=
  t.pixelSizeWith? (t.widgets.size + 1) id

/-- The pixel size of a widget that is in no ring and below none. -/
def pixelSize (t : Tree) (id : WidgetId) : Size Float32 := (t.pixelSize? id).getD ⟨0, 0⟩

/-! ## Paths -/

/-- The child of that name; the first one, if several have it. -/
def childNamed (t : Tree) (id : WidgetId) (name : String) : Option WidgetId :=
  (t.childrenOf id).find? fun c => ((t.get? c).map Widget.name) == some name

end Tree

/-- The names in a path.  Slashes in front, at the end or doubled add none. -/
def pathNames (path : String) : List String :=
  ((splitAt '/' path.toList).filter fun s => !s.isEmpty).map String.ofList

namespace Tree

/-- Goes down by names. -/
def descend (t : Tree) (id : WidgetId) : List String → Option WidgetId
  | [] => some id
  | name :: names =>
    match t.childNamed id name with
    | none => none
    | some c => t.descend c names

def find? (t : Tree) (id : WidgetId) (path : String) : Option WidgetId :=
  t.descend id (pathNames path)

end Tree

/-! ## Views -/

/-- A widget and the tree around it. -/
structure View where
  tree : Tree
  id : WidgetId
  widget : Widget

def Tree.view? (t : Tree) (id : WidgetId) : Option View := (t.get? id).map fun w => ⟨t, id, w⟩

namespace View

def name (v : View) : String := v.widget.name

def pixelSize (v : View) : Size Float32 := v.tree.pixelSize v.id

def parent? (v : View) : Option View := v.widget.parent.bind v.tree.view?

/-- The size that the widget's area is relative to: the parent's, or the display's
if there is no parent. -/
def parentSize (v : View) : Size Float32 :=
  match v.widget.parent with
  | none => v.tree.resources.display
  | some parent => v.tree.pixelSize parent

def pixelSize? (v : View) : Option (Size Float32) := v.tree.pixelSize? v.id

def parentSize? (v : View) : Option (Size Float32) :=
  match v.widget.parent with
  | none => some v.tree.resources.display
  | some parent => v.tree.pixelSize? parent

def child? (v : View) (path : String) : Option View := (v.tree.find? v.id path).bind v.tree.view?

/-- The widget that an optional path names: this one, if there is no path. -/
def target? (v : View) : Option String → Option View
  | none => some v
  | some path => if path = "" then some v else v.child? path

def property? (v : View) (key : String) : Option Property := v.widget.properties.get? key

/-- The font assigned to the widget, if it is registered. -/
def font? (v : View) : Option (String × Font) := do
  let name ← v.widget.font
  let f ← v.tree.resources.fonts.get? name
  return (name, f)

/-! ## Place on screen -/

/-- Where a widget starts in the rectangle of its parent. -/
def originAt (v : View) (parent : Rect) : Point Float32 :=
  originIn parent v.widget.area.position v.pixelSize v.widget.horizontal v.widget.vertical

/-- The display, as the rectangle around all roots. -/
def displayRect (v : View) : Rect := .ofSize ⟨0, 0⟩ v.tree.resources.display

/-- Where the widget starts on screen, if the walk up its parents ends within a bound. -/
def originWith? : Nat → View → Option (Point Float32)
  | 0, _ => none
  | n + 1, v =>
    match v.parent? with
    | none => some (v.originAt v.displayRect)
    | some p => (originWith? n p).map fun o => v.originAt (.ofSize o p.pixelSize)

/-- Where the widget starts on screen, in whole pixels; as with sizes, in a ring nowhere. -/
def origin? (v : View) : Option (Point Float32) := v.originWith? (v.tree.widgets.size + 1)

/-- Where a widget that is in no ring and below none starts on screen. -/
def origin (v : View) : Point Float32 := v.origin?.getD ⟨0, 0⟩

def screenRect (v : View) : Rect := .ofSize v.origin v.pixelSize

end View

end SkinLayout
