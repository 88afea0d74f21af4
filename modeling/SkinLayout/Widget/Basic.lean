import SkinLayout.Unified.Basic
import SkinLayout.Resource
/-!
# Widgets and their tree

A tree keeps its widgets by number, and beside them the list of roots and a list
of children for every widget.  A widget also names its parent, so the tree can be
walked both ways.

Numbers are expected to be used once.  If one is used again the newer widget takes
the place of the older one and starts without children, but the lists that name
the number keep it.
-/
namespace SkinLayout

abbrev WidgetId := Nat

/-- The value of a property, with the name of its type. -/
structure Property where
  kind : String
  value : String
  deriving DecidableEq, Inhabited

structure Widget where
  name : String
  area : UnifiedRect
  horizontal : Alignment
  vertical : Alignment
  font : Option String
  text : String
  properties : Table String Property
  parent : Option WidgetId

namespace Widget

/-- A widget that fills its parent. -/
def named (name : String) : Widget where
  name := name
  area := .ofEdges .zero .zero .full .full
  horizontal := .leading
  vertical := .leading
  font := none
  text := ""
  properties := .empty
  parent := none

end Widget

structure Tree where
  widgets : Table WidgetId Widget
  roots : List WidgetId
  children : Table WidgetId (List WidgetId)
  nextId : WidgetId
  resources : Resources
  /-- Whether sizes are rounded to whole pixels. -/
  alignPixels : Bool

namespace Tree

/-- A tree without widgets. -/
def ofResources (r : Resources) : Tree := ⟨.empty, [], .empty, 1, r, true⟩

def get? (t : Tree) (id : WidgetId) : Option Widget := t.widgets.get? id

def childrenOf (t : Tree) (id : WidgetId) : List WidgetId := (t.children.get? id).getD []

/-! ## Editing -/

/-- A number that was not given out before. -/
def freshId (t : Tree) : WidgetId × Tree := (t.nextId, { t with nextId := t.nextId + 1 })

def addRoot (t : Tree) (id : WidgetId) (w : Widget) : Tree :=
  { t with
    widgets := t.widgets.insert id { w with parent := none }
    roots := t.roots ++ [id]
    children := t.children.insert id [] }

def addChild (t : Tree) (parent id : WidgetId) (w : Widget) : Tree :=
  { t with
    widgets := t.widgets.insert id { w with parent := some parent }
    children := (t.children.insert parent (t.childrenOf parent ++ [id])).insert id [] }

def edit (t : Tree) (id : WidgetId) (f : Widget → Widget) : Tree :=
  { t with widgets := t.widgets.modify id f }

def setArea (t : Tree) (id : WidgetId) (area : UnifiedRect) : Tree :=
  t.edit id fun w => { w with area := area }

def setPointSize (t : Tree) (font : String) (size : Float32) : Tree :=
  { t with resources := t.resources.setPointSize font size }

/-! ## Removal -/

/-- Takes a number out of its parent's list. -/
def unlink (t : Tree) (id : WidgetId) : Tree :=
  match (t.get? id).bind Widget.parent with
  | none => t
  | some parent => { t with children := t.children.modify parent fun l => l.filter (· ≠ id) }

/-- Takes a widget out once its children are gone. -/
def drop (t : Tree) (id : WidgetId) : Tree :=
  { t.unlink id with
    roots := t.roots.filter (· ≠ id)
    widgets := t.widgets.erase id }

/-- Removes a widget and all below it.  The list of children is taken out of the
tree before it is followed, so no list is followed twice and the number of lists
bounds the depth. -/
def removeWith : Nat → Tree → WidgetId → Tree
  | 0, t, _ => t
  | n + 1, t, id =>
    match t.children.get? id with
    | none => t.drop id
    | some l => (l.foldl (removeWith n) { t with children := t.children.erase id }).drop id

def remove (t : Tree) (id : WidgetId) : Tree := t.removeWith (t.children.size + 1) id

/-! ## Iteration -/

/-- A widget and all below it, each before its children. -/
def subtreeWith (t : Tree) : Nat → WidgetId → List WidgetId
  | 0, id => [id]
  | n + 1, id => id :: (t.childrenOf id).flatMap (t.subtreeWith n)

/-- No path down is longer than the number of child lists. -/
def subtree (t : Tree) (id : WidgetId) : List WidgetId := t.subtreeWith t.children.size id

/-- All widgets, depth first. -/
def preorder (t : Tree) : List WidgetId := t.roots.flatMap t.subtree

end Tree

end SkinLayout
