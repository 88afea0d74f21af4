import SkinLayout.Proofs.Dimension.Failure
import SkinLayout.Proofs.Dimension.Sources
/-!
# A rectangle in the widget's place

A dimension is evaluated for a widget, or with a rectangle in its place.  Of the rectangle only the
unified lengths in the dimension ask, and they ask for its size (`Node.evaluateIn_congr`); the size
of the widget itself gives back what the widget gives (`Node.evaluateIn_own`).  So the area of a
widget and its area in a container of that size are one rectangle, moved by the position of the
container, and they fail alike (`Area.pixelRectIn_agrees`).
-/
namespace SkinLayout

namespace Node

variable {v : View} {r r' : Rect}

/-! ## Nodes -/

/-- Lengths that come to the same in both rectangles are all that has to agree. -/
theorem evaluateIn_congr (n : Node)
    (h : ∀ u role, .unified u role ∈ n.parts → u.along role r.size = u.along role r'.size) :
    n.evaluateIn v r = n.evaluateIn v r' := by
  induction n using Node.induction with
  | literal x => rfl
  | unified u role =>
    have hlength : u.along role r.size = u.along role r'.size := h u role (by simp [parts])
    rw [evaluateIn, evaluateIn, hlength]
  | font m => rfl
  | image m => rfl
  | widget m => rfl
  | property m => rfl
  | operation op left right ihleft ihright =>
    have hleft : evaluateOperandIn v r left = evaluateOperandIn v r' left := by
      cases left with
      | none => rfl
      | some n => exact ihleft n rfl fun u role hu => h u role (by simp [parts, operandParts, hu])
    have hright : evaluateOperandIn v r right = evaluateOperandIn v r' right := by
      cases right with
      | none => rfl
      | some n => exact ihright n rfl fun u role hu => h u role (by simp [parts, operandParts, hu])
    rw [evaluateIn, evaluateIn, hleft, hright]

/-- In a rectangle of the widget's size a node evaluates as for the widget. -/
theorem evaluateIn_own (n : Node) (h : r.size = v.pixelSize) : n.evaluateIn v r = n.evaluate v := by
  induction n using Node.induction with
  | literal x => rfl
  | unified u role => rw [evaluateIn, evaluate, h]
  | font m => rfl
  | image m => rfl
  | widget m => rfl
  | property m => rfl
  | operation op left right ihleft ihright =>
    have hleft : evaluateOperandIn v r left = evaluateOperand v left :=
      operand_cases left rfl ihleft
    have hright : evaluateOperandIn v r right = evaluateOperand v right :=
      operand_cases right rfl ihright
    rw [evaluateIn, evaluate, hleft, hright]

/-- **Evaluation in a rectangle agrees with evaluation for the widget.**  Only the size of the
rectangle counts; the size of the widget changes nothing, and without unified lengths no rectangle
does.  Values, errors and events are the same. -/
theorem evaluateIn_agrees (n : Node) (v : View) :
    (∀ r r' : Rect, r.size = r'.size → n.evaluateIn v r = n.evaluateIn v r') ∧
    (∀ r : Rect, r.size = v.pixelSize → n.evaluateIn v r = n.evaluate v) ∧
    ((∀ u role, .unified u role ∉ n.parts) → ∀ r, n.evaluateIn v r = n.evaluate v) := by
  refine ⟨fun r r' hsize => ?_, fun r => n.evaluateIn_own, fun hnone r => ?_⟩
  · apply evaluateIn_congr
    intro u role _
    rw [hsize]
  · -- nothing in the node tells this rectangle from one of the widget's size
    have hcongr : n.evaluateIn v r = n.evaluateIn v (.ofSize ⟨0, 0⟩ v.pixelSize) :=
      n.evaluateIn_congr fun u role hu => absurd hu (hnone u role)
    exact hcongr.trans (n.evaluateIn_own rfl)

/-- Half the width and three pixels more. -/
def halfWide : Node := .operation .add (some (.unified ⟨0.5, 0⟩ .width)) (some (.literal 3))

/-- One pixel less than the width, with no length in it. -/
def innerWidth : Node :=
  .operation .subtract (some (.widget ⟨none, .width⟩)) (some (.literal 1))

theorem evaluateIn_agrees_frame :
    halfWide.evaluateIn frameView ⟨7, 7, 40, 20⟩ =
      halfWide.evaluateIn frameView ⟨0, 0, 40, 20⟩ ∧
    halfWide.evaluateIn frameView ⟨7, 7, 101, 51⟩ = halfWide.evaluate frameView ∧
    innerWidth.evaluateIn frameView ⟨7, 7, 40, 20⟩ = innerWidth.evaluate frameView ∧
    (halfWide.evaluateIn frameView ⟨7, 7, 40, 20⟩).result = .ok 23 ∧
    (halfWide.evaluate frameView).result = .ok 54 ∧
    (innerWidth.evaluate frameView).result = .ok 100 := by
  obtain ⟨hposition, hown, -⟩ := evaluateIn_agrees halfWide frameView
  obtain ⟨-, -, hplain⟩ := evaluateIn_agrees innerWidth frameView
  have hframe : Rect.size ⟨7, 7, 101, 51⟩ = frameView.pixelSize := by decide +kernel
  have hnone : ∀ u role, Node.unified u role ∉ innerWidth.parts := by
    simp [innerWidth, parts, operandParts]
  refine ⟨hposition _ _ rfl, hown _ hframe, hplain hnone _, ?_, ?_, ?_⟩ <;> decide +kernel

end Node

/-! ## Areas -/

namespace Outcome

variable {α β γ : Type}

@[simp] theorem result_map (f : α → β) (x : Outcome α) : (f <$> x).result = x.result.map f := by
  show (x >>= fun a => pure (f a)).result = _
  rw [result_bind]
  cases x.result <;> rfl

theorem map_bind (x : Outcome α) (g : α → Outcome β) (f : β → γ) :
    f <$> (x >>= g) = x >>= fun a => f <$> g a := by
  obtain ⟨result, events⟩ := x
  cases result with
  | error e => rfl
  | ok a =>
    show andThen ⟨(g a).result, events ++ (g a).events⟩ _ =
      ⟨(f <$> g a).result, events ++ (f <$> g a).events⟩
    generalize g a = y
    obtain ⟨result, events'⟩ := y
    cases result with
    | error e => rfl
    | ok b => exact congrArg (Outcome.mk _) (List.append_assoc _ _ _)

end Outcome

namespace Area

/-- The area in a container of a size, before it is moved to where the container is. -/
def rectWithin (a : Area) (v : View) (s : Size Float32) : Outcome Rect := do
  match ← Outcome.ofLogged (a.propertyRect v) with
  | some r => return r.toPixels true s
  | none => a.combined fun d => d.evaluateIn v (.ofSize ⟨0, 0⟩ s)

/-- Where the container is decides about nothing but where the area is. -/
theorem pixelRectIn_eq (a : Area) (v : View) (c : Rect) :
    a.pixelRectIn v c = (fun r => r.offset c.position) <$> a.rectWithin v c.size := by
  have hvalue : (fun d => Dimension.evaluateIn d v c) =
      fun d => d.evaluateIn v (.ofSize ⟨0, 0⟩ c.size) := by
    funext d
    exact d.node.evaluateIn_congr fun _ _ _ => rfl
  unfold pixelRectIn rectWithin
  rw [Outcome.map_bind, hvalue]
  congr 1
  funext o
  cases o <;> rfl

theorem rectWithin_own (a : Area) (v : View) : a.rectWithin v v.pixelSize = a.pixelRect v := by
  have hvalue : (fun d => Dimension.evaluateIn d v (.ofSize ⟨0, 0⟩ v.pixelSize)) =
      fun d => d.evaluate v := by
    funext d
    exact d.node.evaluateIn_own rfl
  unfold rectWithin pixelRect
  congr 1
  funext o
  cases o with
  | none => exact congrArg a.combined hvalue
  | some r => rfl

/-- **The area in a container is the area of the widget, moved to the container**, when the two have
the same size; it is the same error, if the area has none.  In any container the size alone decides
about the rectangle, and the position moves it. -/
theorem pixelRectIn_agrees (a : Area) (v : View) :
    (∀ c : Rect, c.size = v.pixelSize →
      a.pixelRectIn v c = (fun r => r.offset c.position) <$> a.pixelRect v ∧
      (∀ r, (a.pixelRect v).result = .ok r →
        (a.pixelRectIn v c).result = .ok (r.offset c.position)) ∧
      ∀ e, (a.pixelRect v).result = .error e → (a.pixelRectIn v c).result = .error e) ∧
    ∀ c : Rect, a.pixelRectIn v c = (fun r => r.offset c.position) <$> a.rectWithin v c.size := by
  refine ⟨fun c hsize => ?_, a.pixelRectIn_eq v⟩
  have hmoved : a.pixelRectIn v c = (fun r => r.offset c.position) <$> a.pixelRect v := by
    rw [pixelRectIn_eq, hsize, rectWithin_own]
  refine ⟨hmoved, fun r hr => ?_, fun e he => ?_⟩
  · rw [hmoved, Outcome.result_map, hr]
    rfl
  · rw [hmoved, Outcome.result_map, he]
    rfl

/-- The failing area without its property has an error, with it a rectangle. -/
theorem pixelRectIn_agrees_frame :
    Rect.size ⟨7, 7, 101, 51⟩ = frameView.pixelSize ∧
    (failingArea.pixelRectIn frameView ⟨7, 7, 101, 51⟩).result = .ok ⟨32, 29, 71, 29⟩ ∧
    ({ failingArea with property := none }.pixelRectIn frameView ⟨7, 7, 101, 51⟩).result =
      .error (.invalidRequest .invalidOperator) := by
  have hframe : Rect.size ⟨7, 7, 101, 51⟩ = frameView.pixelSize := by decide +kernel
  obtain ⟨-, hrect, -⟩ := (pixelRectIn_agrees failingArea frameView).1 _ hframe
  obtain ⟨-, -, herror⟩ :=
    (pixelRectIn_agrees { failingArea with property := none } frameView).1 _ hframe
  refine ⟨hframe, ?_, ?_⟩
  · have hinner : (failingArea.pixelRect frameView).result = .ok ⟨25, 22, 71, 29⟩ := by
      decide +kernel
    rw [hrect _ hinner]
    decide +kernel
  · exact herror _ rfl

end Area

end SkinLayout
