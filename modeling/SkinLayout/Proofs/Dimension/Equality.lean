import Mathlib
import SkinLayout.Dimension.Node
/-!
# Comparing areas

Areas are compared number by number, so the zeros count as equal and an area with a not-a-number in
it differs from itself.  Whatever is found equal to something has none in it.
-/
namespace SkinLayout

deriving instance ReflBEq for ImageMetric, WidgetMetric, PropertyMetric

/-! ## Part by part -/

theorem Unified.beq_eq (u v : Unified) : (u == v) = (u.scale == v.scale && u.offset == v.offset) :=
  rfl

theorem FontMetric.beq_eq (m m' : FontMetric) : (m == m') = (m.widget == m'.widget &&
    (m.font == m'.font && (m.text == m'.text && (m.measure == m'.measure &&
      m.padding == m'.padding)))) := rfl

theorem Dimension.beq_eq (d d' : Dimension) :
    (d == d') = (d.role == d'.role && d.node.same d'.node) := rfl

theorem Area.beq_eq (a a' : Area) : (a == a') = (a.left == a'.left && (a.top == a'.top &&
    (a.right == a'.right && (a.bottom == a'.bottom && a.property == a'.property)))) := rfl

/-! ## What is equal to something -/

theorem Single.beq_self_of_beq {x y : Float32} (h : (x == y) = true) : (y == y) = true :=
  Float32.beq_self_iff.2 (Float32.beq_iff_ne_nan_and_eq.1 h).2.1

theorem Unified.beq_self_of_beq {u v : Unified} (h : (u == v) = true) : (v == v) = true := by
  rw [Unified.beq_eq, Bool.and_eq_true] at h ⊢
  exact ⟨Single.beq_self_of_beq h.1, Single.beq_self_of_beq h.2⟩

theorem FontMetric.beq_self_of_beq {m m' : FontMetric} (h : (m == m') = true) :
    (m' == m') = true := by
  simp only [FontMetric.beq_eq, Bool.and_eq_true, beq_self_eq_true, true_and] at h ⊢
  exact Single.beq_self_of_beq h.2.2.2.2

theorem Node.same_self_of_same (n : Node) : ∀ {m : Node}, m.same n = true → n.same n = true := by
  induction n using Node.induction with
  | literal x =>
    intro m h
    cases m with
    | literal y => exact Single.beq_self_of_beq (x := y) h
    | _ => cases h
  | unified u role =>
    intro m h
    cases m with
    | unified u' role' =>
      rw [same, Bool.and_eq_true] at h
      rw [same, Unified.beq_self_of_beq h.1, beq_self_eq_true]
      rfl
    | _ => cases h
  | font f =>
    intro m h
    cases m with
    | font f' => exact FontMetric.beq_self_of_beq (m := f') h
    | _ => cases h
  | image i => intro m h; rw [same, beq_self_eq_true]
  | widget w => intro m h; rw [same, beq_self_eq_true]
  | property p => intro m h; rw [same, beq_self_eq_true]
  | operation op left right ihleft ihright =>
    intro m h
    have hoperand : ∀ o o' : Option Node, sameOperand o' o = true →
        (∀ n, o = some n → ∀ {m : Node}, m.same n = true → n.same n = true) →
        sameOperand o o = true := by
      intro o o' ho ih
      cases o with
      | none => rfl
      | some n =>
        cases o' with
        | none => cases ho
        | some m => exact ih n rfl ho
    cases m with
    | operation op' left' right' =>
      rw [same, Bool.and_eq_true, Bool.and_eq_true] at h
      rw [same, beq_self_eq_true, hoperand left left' h.1.2 ihleft,
        hoperand right right' h.2 ihright]
      rfl
    | _ => cases h

theorem Dimension.beq_self_of_beq {d d' : Dimension} (h : (d == d') = true) :
    (d' == d') = true := by
  rw [Dimension.beq_eq, Bool.and_eq_true] at h ⊢
  exact ⟨beq_self_eq_true _, Node.same_self_of_same d'.node h.2⟩

/-- **An area that equals another equals itself.** -/
theorem Area.beq_self_of_beq {a a' : Area} (h : (a == a') = true) : (a' == a') = true := by
  simp only [Area.beq_eq, Bool.and_eq_true] at h ⊢
  obtain ⟨hleft, htop, hright, hbottom, -⟩ := h
  exact ⟨Dimension.beq_self_of_beq hleft, Dimension.beq_self_of_beq htop,
    Dimension.beq_self_of_beq hright, Dimension.beq_self_of_beq hbottom, beq_self_eq_true _⟩

end SkinLayout
