import SkinLayout.Dimension.Attempt
import SkinLayout.Dimension.FontUse
/-!
# The layout cache

Rectangles of areas, kept by widget and name together with the area they were
computed from.  An entry answers as long as the area asked for is the same; the
cache is told of changes and drops what they may have made out of date.
-/
namespace SkinLayout

structure Cache where
  entries : Table (WidgetId × String) (Area × Rect)

namespace Cache

def empty : Cache := ⟨.empty⟩

instance : Inhabited Cache := ⟨empty⟩

/-- The kept rectangle, if it was computed from the same area. -/
def hit? (c : Cache) (id : WidgetId) (name : String) (area : Area) : Option Rect :=
  (c.entries.get? (id, name)).bind fun e => if e.1 == area then some e.2 else none

/-- The rectangle of an area of a widget as the tree stands. -/
def compute (t : Tree) (id : WidgetId) (area : Area) : Outcome Rect :=
  match t.view? id with
  | some v => area.pixelRect v
  | none => Outcome.refuse (.unknownWidget id)

def store (c : Cache) (id : WidgetId) (name : String) (area : Area) (r : Rect) : Cache :=
  ⟨c.entries.insert (id, name) (area, r)⟩

/-- Keeps a rectangle that was computed; a failure changes nothing. -/
def keep (c : Cache) (id : WidgetId) (name : String) (area : Area) (x : Outcome Rect) :
    Logged (Except LayoutError Rect × Cache) :=
  match x.result with
  | .ok r => ⟨(.ok r, c.store id name area r), x.events⟩
  | .error e => ⟨(.error e, c), x.events⟩

/-- Answers from the cache, or else computes the rectangle and keeps it.  A hit
does not look at the tree. -/
def resolve (c : Cache) (t : Tree) (id : WidgetId) (name : String) (area : Area) :
    Logged (Except LayoutError Rect × Cache) :=
  match c.hit? id name area with
  | some r => pure (.ok r, c)
  | none => c.keep id name area (compute t id area)

/-- The rectangle of an area of a widget, if computing it comes to an end. -/
def compute? (t : Tree) (id : WidgetId) (area : Area) : Option (Outcome Rect) :=
  match t.view? id with
  | some v => (area.attempt v).outcome?
  | none => some (Outcome.refuse (.unknownWidget id))

/-- Answers as `resolve` does, unless there is no end to what it takes. -/
def resolve? (c : Cache) (t : Tree) (id : WidgetId) (name : String) (area : Area) :
    Option (Logged (Except LayoutError Rect × Cache)) :=
  match c.hit? id name area with
  | some r => some (pure (.ok r, c))
  | none => (compute? t id area).map (c.keep id name area)

/-! ## Dropping entries -/

/-- Whether an entry outlives a change of a font: its widget is still there, and
its area does not read the font. -/
def survivesFont (t : Tree) (font : String) (id : WidgetId) (area : Area) : Bool :=
  match t.view? id with
  | some v => !area.readsFont v font
  | none => false

/-- Drops what a change of a font may have made out of date, and says how much. -/
def fontResized (c : Cache) (t : Tree) (font : String) : Logged (Nat × Cache) := do
  let kept : Cache := ⟨c.entries.filter fun k e => survivesFont t font k.1 e.1⟩
  let dropped := c.entries.size - kept.entries.size
  Logged.report (.fontResized font dropped)
  return (dropped, kept)

/-- Drops all entries of a widget and of those below it, and says how many. -/
def invalidate (c : Cache) (t : Tree) (id : WidgetId) : Logged (Nat × Cache) := do
  let stale := t.subtree id
  let kept : Cache := ⟨c.entries.filter fun k _ => !stale.contains k.1⟩
  let dropped := c.entries.size - kept.entries.size
  Logged.report (.widgetInvalidated id dropped)
  return (dropped, kept)

def contains (c : Cache) (id : WidgetId) (name : String) : Bool := c.entries.contains (id, name)

def size (c : Cache) : Nat := c.entries.size

end Cache

end SkinLayout
