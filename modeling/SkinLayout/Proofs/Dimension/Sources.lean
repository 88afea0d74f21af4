import SkinLayout.Dimension.Evaluate
import SkinLayout.Proofs.Unified.RoundTrip
/-!
# Geometry from a property

A rectangle or a length may be written into a dimension or into a property of the widget.  The text
in the property is read when the dimension is evaluated, and as it reads back as what was written,
both ways come to the same pixels (`property_geometry_eq_inline`).  A rectangle goes the whole way
at once, a dimension edge by edge.
-/
namespace SkinLayout

namespace Node

variable {v w : View} {m : PropertyMetric} {p : Property} {axis : Axis} {u : Unified}

/-- A unified length along an axis is resolved against the widget's extent. -/
theorem evaluate_unified_role (v : View) (u : Unified) (axis : Axis) :
    evaluate v (.unified u axis.role) = pure (u.toPixels true (axis.extent v.pixelSize)) := by
  rw [evaluate, Unified.along, axis.axis?_role]
  rfl

theorem evaluate_property_of_read (hw : v.target? m.widget = some w) (haxis : m.axis = some axis)
    (hp : w.property? m.property = some p) (hread : Unified.ofChars p.value.toList = .ok u) :
    evaluate v (.property m) = pure (u.toPixels true (axis.extent w.pixelSize)) := by
  have hvalue : m.evaluate v = pure (u.toPixels true (axis.extent w.pixelSize)) := by
    unfold PropertyMetric.evaluate PropertyMetric.valueOn
    simp only [hw, hp, haxis]
    unfold PropertyMetric.lengthValue
    simp only [hread]
  rw [evaluate, hvalue]
  rfl

end Node

/-- What depends on a value that is there at once. -/
theorem Outcome.ofLogged_pure_bind {α β : Type} (x : α) (f : α → Outcome β) :
    (ofLogged (pure x) >>= f) = f x := rfl

namespace Area

variable {a : Area} {v : View} {key : String} {p : Property} {r : UnifiedRect}

/-- The area with the four edges of a rectangle. -/
def ofRect (r : UnifiedRect) : Area where
  left := ⟨.leftEdge, .unified r.min.x .leftEdge⟩
  top := ⟨.topEdge, .unified r.min.y .topEdge⟩
  right := ⟨.rightEdge, .unified r.max.x .rightEdge⟩
  bottom := ⟨.bottomEdge, .unified r.max.y .bottomEdge⟩
  property := none

/-- Edges are turned into pixels one by one, and the far ones into extents at the end. -/
theorem combined_ofRect (r : UnifiedRect) (s : Size Float32) (value : Dimension → Outcome Float32)
    (hvalue : ∀ u role, value ⟨role, .unified u role⟩ = Outcome.ofExcept (u.along role s)) :
    (ofRect r).combined value = pure (r.toPixels true s) := by
  unfold combined ofRect
  simp only [hvalue]
  rfl

theorem pixelRect_ofRect (r : UnifiedRect) (v : View) :
    (ofRect r).pixelRect v = pure (r.toPixels true v.pixelSize) := by
  have hcombined := combined_ofRect r v.pixelSize (fun d => d.evaluate v) fun _ _ => rfl
  have hproperty : (ofRect r).propertyRect v = pure none := rfl
  rw [pixelRect, hproperty, Outcome.ofLogged_pure_bind]
  exact hcombined

theorem pixelRectIn_ofRect (r : UnifiedRect) (v : View) (container : Rect) :
    (ofRect r).pixelRectIn v container =
      pure ((r.toPixels true container.size).offset container.position) := by
  have hcombined := combined_ofRect r container.size (fun d => d.evaluateIn v container)
    fun _ _ => rfl
  have hproperty : (ofRect r).propertyRect v = pure none := rfl
  rw [pixelRectIn, hproperty, Outcome.ofLogged_pure_bind]
  simp only [hcombined]
  rfl

theorem propertyRect_of_read (ha : a.property = some key) (hp : v.property? key = some p)
    (hread : UnifiedRect.ofChars p.value.toList = .ok r) : a.propertyRect v = pure (some r) := by
  unfold propertyRect
  simp only [ha, hp, hread]

end Area

/-- **Geometry from a property is the geometry written inline.**  A rectangle in a property takes the
place of all four dimensions, whatever they are and whether or not they fail; a length in a property
is resolved against the widget that has it, in a rectangle as well. -/
theorem property_geometry_eq_inline (v : View) :
    (∀ (r : UnifiedRect) (key : String) (p : Property), v.property? key = some p →
      p.value = String.ofList r.toChars → ∀ a : Area, a.property = some key →
        a.pixelRect v = (Area.ofRect r).pixelRect v ∧
        ∀ container, a.pixelRectIn v container = (Area.ofRect r).pixelRectIn v container) ∧
    ∀ (u : Unified) (axis : Axis) (m : PropertyMetric) (w : View) (p : Property),
      v.target? m.widget = some w → m.axis = some axis → w.property? m.property = some p →
        p.value = String.ofList u.toChars →
          Node.evaluate v (.property m) = Node.evaluate w (.unified u axis.role) ∧
          ∀ r, Node.evaluateIn v r (.property m) = Node.evaluate w (.unified u axis.role) := by
  constructor
  · intro r key p hp hvalue a ha
    have hread : UnifiedRect.ofChars p.value.toList = .ok r := by
      rw [hvalue, String.toList_ofList, r.ofChars_toChars]
    have hrect := Area.propertyRect_of_read ha hp hread
    constructor
    · rw [Area.pixelRect_ofRect, Area.pixelRect, hrect]
      rfl
    · intro container
      rw [Area.pixelRectIn_ofRect, Area.pixelRectIn, hrect]
      rfl
  · intro u axis m w p hw haxis hp hvalue
    have hread : Unified.ofChars p.value.toList = .ok u := by
      rw [hvalue, String.toList_ofList, u.ofChars_toChars]
    have hsame : Node.evaluate v (.property m) = Node.evaluate w (.unified u axis.role) := by
      rw [Node.evaluate_property_of_read hw haxis hp hread, Node.evaluate_unified_role]
    exact ⟨hsame, fun _ => hsame⟩

/-- What is left of a frame inside its border. -/
def insideFrame : UnifiedRect := .ofEdges ⟨0.25, 0⟩ ⟨0.5, -4⟩ ⟨1, -5⟩ .full

def halfLess : Unified := ⟨0.5, -1⟩

/-- A frame that has both in properties. -/
def frame : Tree :=
  let inner : Property := ⟨"URect", String.ofList insideFrame.toChars⟩
  let indent : Property := ⟨"UDim", String.ofList halfLess.toChars⟩
  let properties := (Table.empty.insert "Inner" inner).insert "Indent" indent
  (Tree.ofResources (.ofDisplay ⟨101, 51⟩)).freshId.2.addRoot 1
    { Widget.named "frame" with properties := properties }

def frameView : View := ⟨frame, 1, (frame.get? 1).getD (.named "frame")⟩

/-- An area with a dimension that fails, and the property in its place. -/
def failingArea : Area :=
  { Area.whole with left := ⟨.leftEdge, .operation .invalid none none⟩, property := some "Inner" }

theorem property_geometry_frame : ∃ v, frame.view? 1 = some v ∧
    (failingArea.left.evaluate v).result = .error (.invalidRequest .invalidOperator) ∧
    (failingArea.pixelRect v).result = .ok ⟨25, 22, 71, 29⟩ ∧
    (failingArea.pixelRectIn v ⟨7, 7, 40, 20⟩).result = .ok ⟨17, 13, 25, 14⟩ ∧
    (Node.evaluate v (.property ⟨none, "Indent", some .horizontal⟩)).result = .ok 50 := by
  obtain ⟨hrect, hlength⟩ := property_geometry_eq_inline frameView
  obtain ⟨hinner, hinnerIn⟩ := hrect insideFrame "Inner" _ rfl rfl failingArea rfl
  obtain ⟨hindent, -⟩ := hlength halfLess .horizontal ⟨none, "Indent", some .horizontal⟩ _ _
    rfl rfl rfl rfl
  refine ⟨frameView, rfl, rfl, ?_, ?_, ?_⟩
  · rw [hinner, Area.pixelRect_ofRect, Outcome.result_pure]
    decide +kernel
  · rw [hinnerIn, Area.pixelRectIn_ofRect, Outcome.result_pure]
    decide +kernel
  · rw [hindent, Node.evaluate_unified_role, Outcome.result_pure]
    decide +kernel

end SkinLayout
