import SkinLayout.Proofs.Dimension.Equality
/-!
# Equality that knows the not-a-number

Equality of numbers does not see the sign of a zero, and it sees a not-a-number differ from itself.
Dimensions agree if they are equal but for the latter.  A dimension equals another exactly if they
agree and the other has no not-a-number in it, that is, equals itself (`Area.beq_iff_agree`).
-/
namespace SkinLayout

deriving instance LawfulBEq for ImageMetric, WidgetMetric, PropertyMetric

/-- Two numbers are equal, or neither is a number. -/
def Single.Agree (x y : Float32) : Prop := (x == y) = true ∨ x.isNaN = true ∧ y.isNaN = true

structure Unified.Agree (u v : Unified) : Prop where
  scale : Single.Agree u.scale v.scale
  offset : Single.Agree u.offset v.offset

structure FontMetric.Agree (m m' : FontMetric) : Prop where
  widget : m.widget = m'.widget
  font : m.font = m'.font
  text : m.text = m'.text
  measure : m.measure = m'.measure
  padding : Single.Agree m.padding m'.padding

namespace Node

mutual

def Agree : Node → Node → Prop
  | .literal x, .literal y => Single.Agree x y
  | .unified u r, .unified v s => u.Agree v ∧ r = s
  | .font m, .font m' => m.Agree m'
  | .image m, .image m' => m = m'
  | .widget m, .widget m' => m = m'
  | .property m, .property m' => m = m'
  | .operation op l r, .operation op' l' r' => op = op' ∧ operandAgree l l' ∧ operandAgree r r'
  | _, _ => False

def operandAgree : Option Node → Option Node → Prop
  | none, none => True
  | some n, some n' => n.Agree n'
  | _, _ => False

end

end Node

structure Dimension.Agree (d d' : Dimension) : Prop where
  role : d.role = d'.role
  node : d.node.Agree d'.node

structure Area.Agree (a a' : Area) : Prop where
  left : a.left.Agree a'.left
  top : a.top.Agree a'.top
  right : a.right.Agree a'.right
  bottom : a.bottom.Agree a'.bottom
  property : a.property = a'.property

/-! ## Numbers -/

namespace Single

theorem Agree.refl (x : Float32) : Agree x x := by
  by_cases h : x = Float32.nan
  · have hnan : x.isNaN = true := by rw [Float32.isNaN_eq_decide_eq_nan, decide_eq_true h]
    exact .inr ⟨hnan, hnan⟩
  · exact .inl (Float32.beq_self_iff.2 h)

theorem beq_iff_agree {x y : Float32} : (x == y) = true ↔ Agree x y ∧ (y == y) = true := by
  constructor
  · exact fun h => ⟨.inl h, beq_self_of_beq h⟩
  · rintro ⟨h | ⟨-, hnan⟩, hself⟩
    · exact h
    · rw [Float32.isNaN_eq_decide_eq_nan, decide_eq_true_eq] at hnan
      exact absurd hnan (Float32.beq_self_iff.1 hself)

end Single

theorem Unified.Agree.refl (u : Unified) : u.Agree u := ⟨.refl _, .refl _⟩

theorem Unified.beq_iff_agree {u v : Unified} : (u == v) = true ↔ u.Agree v ∧ (v == v) = true := by
  refine ⟨fun h => ⟨?_, beq_self_of_beq h⟩, fun ⟨h, hself⟩ => ?_⟩
  · rw [beq_eq, Bool.and_eq_true] at h
    exact ⟨.inl h.1, .inl h.2⟩
  · rw [beq_eq, Bool.and_eq_true] at hself ⊢
    exact ⟨Single.beq_iff_agree.2 ⟨h.scale, hself.1⟩, Single.beq_iff_agree.2 ⟨h.offset, hself.2⟩⟩

theorem FontMetric.beq_iff_agree {m m' : FontMetric} :
    (m == m') = true ↔ m.Agree m' ∧ (m' == m') = true := by
  refine ⟨fun h => ⟨?_, beq_self_of_beq h⟩, fun ⟨h, hself⟩ => ?_⟩
  · simp only [beq_eq, Bool.and_eq_true, beq_iff_eq] at h
    obtain ⟨hwidget, hfont, htext, hmeasure, hpadding⟩ := h
    exact ⟨hwidget, hfont, htext, hmeasure, .inl hpadding⟩
  · simp only [beq_eq, Bool.and_eq_true, beq_iff_eq, true_and] at hself ⊢
    exact ⟨h.widget, h.font, h.text, h.measure, Single.beq_iff_agree.2 ⟨h.padding, hself⟩⟩

/-! ## Trees -/

namespace Node

theorem same_iff_agree (n : Node) : ∀ {n' : Node},
    n.same n' = true ↔ n.Agree n' ∧ n'.same n' = true := by
  induction n using Node.induction with
  | literal x =>
    intro n'
    cases n' with
    | literal y => exact Single.beq_iff_agree
    | _ => simp [same, Agree]
  | unified u role =>
    intro n'
    cases n' with
    | unified v role' =>
      have hroles : (role == role') = true ↔ role = role' := beq_iff_eq
      rw [same, same, Bool.and_eq_true, Bool.and_eq_true, Unified.beq_iff_agree, hroles,
        beq_self_eq_true role']
      constructor
      · rintro ⟨⟨hu, hself⟩, hrole⟩
        exact ⟨⟨hu, hrole⟩, hself, rfl⟩
      · rintro ⟨⟨hu, hrole⟩, hself, -⟩
        exact ⟨⟨hu, hself⟩, hrole⟩
    | _ => simp [same, Agree]
  | font m =>
    intro n'
    cases n' with
    | font m' => exact FontMetric.beq_iff_agree
    | _ => simp [same, Agree]
  | image m =>
    intro n'
    cases n' with
    | image m' => simp [same, Agree]
    | _ => simp [same, Agree]
  | widget m =>
    intro n'
    cases n' with
    | widget m' => simp [same, Agree]
    | _ => simp [same, Agree]
  | property m =>
    intro n'
    cases n' with
    | property m' => simp [same, Agree]
    | _ => simp [same, Agree]
  | operation op left right ihleft ihright =>
    intro n'
    have hoperand : ∀ o o' : Option Node, (∀ n, o = some n → ∀ {n' : Node},
          n.same n' = true ↔ n.Agree n' ∧ n'.same n' = true) →
        (sameOperand o o' = true ↔ operandAgree o o' ∧ sameOperand o' o' = true) := by
      intro o o' ih
      cases o with
      | none => cases o' <;> simp [sameOperand, operandAgree]
      | some n =>
        cases o' with
        | none => simp [sameOperand, operandAgree]
        | some n' => exact ih n rfl
    cases n' with
    | operation op' left' right' =>
      simp only [same, Agree, Bool.and_eq_true, beq_iff_eq, hoperand left left' ihleft,
        hoperand right right' ihright]
      constructor
      · rintro ⟨⟨hop, hl, hll⟩, hr, hrr⟩
        exact ⟨⟨hop, hl, hr⟩, ⟨trivial, hll⟩, hrr⟩
      · rintro ⟨⟨hop, hl, hr⟩, ⟨-, hll⟩, hrr⟩
        exact ⟨⟨hop, hl, hll⟩, hr, hrr⟩
    | _ => simp [same, Agree]

end Node

theorem Dimension.beq_iff_agree {d d' : Dimension} :
    (d == d') = true ↔ d.Agree d' ∧ (d' == d') = true := by
  refine ⟨fun h => ⟨?_, beq_self_of_beq h⟩, fun ⟨h, hself⟩ => ?_⟩
  · rw [beq_eq, Bool.and_eq_true, beq_iff_eq] at h
    exact ⟨h.1, (d.node.same_iff_agree.1 h.2).1⟩
  · rw [beq_eq, Bool.and_eq_true, beq_iff_eq] at hself ⊢
    exact ⟨h.role, d.node.same_iff_agree.2 ⟨h.node, hself.2⟩⟩

/-- **Areas are equal if they agree and have no not-a-number in them.** -/
theorem Area.beq_iff_agree {a a' : Area} : (a == a') = true ↔ a.Agree a' ∧ (a' == a') = true := by
  refine ⟨fun h => ⟨?_, beq_self_of_beq h⟩, fun ⟨h, hself⟩ => ?_⟩
  · simp only [beq_eq, Bool.and_eq_true, beq_iff_eq] at h
    obtain ⟨hleft, htop, hright, hbottom, hproperty⟩ := h
    exact ⟨(Dimension.beq_iff_agree.1 hleft).1, (Dimension.beq_iff_agree.1 htop).1,
      (Dimension.beq_iff_agree.1 hright).1, (Dimension.beq_iff_agree.1 hbottom).1, hproperty⟩
  · simp only [beq_eq, Bool.and_eq_true, beq_iff_eq] at hself ⊢
    obtain ⟨hleft, htop, hright, hbottom, -⟩ := hself
    exact ⟨Dimension.beq_iff_agree.2 ⟨h.left, hleft⟩, Dimension.beq_iff_agree.2 ⟨h.top, htop⟩,
      Dimension.beq_iff_agree.2 ⟨h.right, hright⟩, Dimension.beq_iff_agree.2 ⟨h.bottom, hbottom⟩,
      h.property⟩

end SkinLayout
