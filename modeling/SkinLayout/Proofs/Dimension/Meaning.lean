import SkinLayout.Dimension.FontUse
import SkinLayout.Proofs.Dimension.Locality
import SkinLayout.Proofs.Dimension.RoundTrip
/-!
# What markup does not change

Normal form changes a dimension, but not what it means for a widget.  An empty path and no path
name the same widget, an empty font or text falls back as an absent one does, and the zero put to
the left of a lone operand is what the missing operand counted for.  Only a padding of negative
zero can tell: as a sum with a zero it decides the sign.
-/
namespace SkinLayout

/-! ## Names -/

theorem filter_normName (s : Option String) :
    (normName s).filter (fun v => v ≠ "") = normName s := by
  unfold normName
  cases s with
  | none => rfl
  | some v => by_cases h : v = "" <;> simp [h]

/-- An empty path leads where no path leads. -/
theorem View.target?_normName (v : View) (path : Option String) :
    v.target? (normName path) = v.target? path := by
  cases path with
  | none => rfl
  | some p =>
    by_cases h : p = ""
    · subst h; rfl
    · rw [normName, Option.filter_some, if_pos (decide_eq_true h)]

/-! ## Leaves -/

namespace FontMetric

theorem font?_norm (m : FontMetric) (v : View) : m.norm.font? v = m.font? v := by
  have hname : m.norm.font.filter (fun name => name ≠ "") = m.font.filter fun name => name ≠ "" :=
    filter_normName m.font
  have htarget : v.target? m.norm.widget = v.target? m.widget := v.target?_normName m.widget
  unfold font?
  rw [hname, htarget]

theorem text?_norm (m : FontMetric) (v : View) : m.norm.text? v = m.text? v := by
  have hname : m.norm.text.filter (fun text => text ≠ "") = m.text.filter fun text => text ≠ "" :=
    filter_normName m.text
  have htarget : v.target? m.norm.widget = v.target? m.widget := v.target?_normName m.widget
  unfold text?
  rw [hname, htarget]

theorem measured_norm (m : FontMetric) (v : View) (f : Font) :
    m.norm.measured v f = m.measured v f := by
  unfold measured
  rw [text?_norm]
  rfl

theorem evaluate_norm {m : FontMetric} (h : m.padding ≠ -0) (v : View) :
    m.norm.evaluate v = m.evaluate v := by
  have hpadding : m.norm.padding = m.padding := if_neg h
  unfold evaluate
  rw [font?_norm, hpadding]
  simp only [measured_norm]
  rfl

theorem readsFont_norm (m : FontMetric) (v : View) (font : String) :
    m.norm.readsFont v font = m.readsFont v font := by
  unfold readsFont
  rw [font?_norm]

end FontMetric

theorem ImageSource.name?_norm (s : ImageSource) (v : View) : s.norm.name? v = s.name? v := by
  cases s with
  | named name => rfl
  | property widget key =>
    show ((v.target? (normName widget)).bind _).map _ = _
    rw [View.target?_normName]
    rfl

/-- The event of a missing image shows the path; the value does not. -/
theorem ImageMetric.value_evaluate_norm (m : ImageMetric) (v : View) :
    (m.norm.evaluate v).value = (m.evaluate v).value := by
  have hname : m.norm.source.name? v = m.source.name? v := ImageSource.name?_norm m.source v
  unfold evaluate
  rw [hname]
  cases (m.source.name? v).bind v.tree.resources.images.get? <;> rfl

theorem WidgetMetric.result_evaluate_norm (m : WidgetMetric) (v : View) :
    (m.norm.evaluate v).result = (m.evaluate v).result := by
  have htarget : v.target? m.norm.widget = v.target? m.widget := v.target?_normName m.widget
  unfold evaluate
  rw [htarget]
  cases v.target? m.widget <;> rfl

theorem PropertyMetric.value_evaluate_norm (m : PropertyMetric) (v : View) :
    (m.norm.evaluate v).value = (m.evaluate v).value := by
  have htarget : v.target? m.norm.widget = v.target? m.widget := v.target?_normName m.widget
  unfold evaluate
  rw [htarget]
  cases v.target? m.widget <;> rfl

/-! ## Trees -/

namespace Node

/-- A left operand in normal form is that of the operator, or the zero in its place. -/
theorem norm_operation (op : Operator) (left right : Option Node) : ∃ l,
    norm (.operation op left right) = .operation op l (normOperand right) ∧
      (l = normOperand left ∨ left = none ∧ l = some (.literal 0)) := by
  match left, right with
  | none, none => exact ⟨none, rfl, .inl rfl⟩
  | none, some r => exact ⟨some (.literal 0), rfl, .inr ⟨rfl, rfl⟩⟩
  | some l, none => exact ⟨some l.norm, rfl, .inl rfl⟩
  | some l, some r => exact ⟨some l.norm, rfl, .inl rfl⟩

/-- What holds of the operands in normal form holds of the zero as well, if it holds of the zero
and of no operand alike. -/
theorem eval_norm_operation {β : Type} (f : Option Node → β)
    (hzero : f (some (.literal 0)) = f none) {left right : Option Node}
    (hleft : ∀ n, left = some n → f (some n.norm) = f (some n))
    (hright : ∀ n, right = some n → f (some n.norm) = f (some n)) (op : Operator) :
    ∃ l r, norm (.operation op left right) = .operation op l r ∧ f l = f left ∧ f r = f right := by
  obtain ⟨l, hnorm, hl⟩ := norm_operation op left right
  have hleft' : f (normOperand left) = f left := operand_cases left rfl hleft
  have hright' : f (normOperand right) = f right := operand_cases right rfl hright
  refine ⟨l, normOperand right, hnorm, ?_, hright'⟩
  rcases hl with rfl | ⟨rfl, rfl⟩
  · exact hleft'
  · exact hzero

theorem result_evaluate_norm (v : View) (n : Node) :
    (∀ m ∈ n.fontMetrics, m.padding ≠ -0) → (n.norm.evaluate v).result = (n.evaluate v).result := by
  induction n using Node.induction with
  | literal x => intro _; rfl
  | unified u role => intro _; rfl
  | font m =>
    intro h
    have hpadding : m.padding ≠ -0 := h _ (List.mem_singleton_self _)
    show (Outcome.ofLogged (m.norm.evaluate v)).result = _
    rw [FontMetric.evaluate_norm hpadding]
    rfl
  | image m =>
    intro _
    show Except.ok (m.norm.evaluate v).value = _
    rw [ImageMetric.value_evaluate_norm]
    rfl
  | widget m => intro _; exact m.result_evaluate_norm v
  | property m =>
    intro _
    show Except.ok (m.norm.evaluate v).value = _
    rw [PropertyMetric.value_evaluate_norm]
    rfl
  | operation op left right ihleft ihright =>
    intro h
    have hleft : ∀ m ∈ operandFontMetrics left, m.padding ≠ -0 :=
      fun m hm => h m (List.mem_append_left _ hm)
    have hright : ∀ m ∈ operandFontMetrics right, m.padding ≠ -0 :=
      fun m hm => h m (List.mem_append_right _ hm)
    obtain ⟨l, r, hnorm, hl, hr⟩ :=
      eval_norm_operation (fun o => (evaluateOperand v o).result) rfl
        (fun n hn => ihleft n hn (by subst hn; exact hleft))
        (fun n hn => ihright n hn (by subst hn; exact hright)) op
    rw [hnorm, evaluate, evaluate]
    simp only [Outcome.result_bind, hl, hr]

theorem result_evaluateIn_norm (v : View) (rect : Rect) (n : Node) :
    (∀ m ∈ n.fontMetrics, m.padding ≠ -0) →
      (n.norm.evaluateIn v rect).result = (n.evaluateIn v rect).result := by
  induction n using Node.induction with
  | unified u role => intro _; rfl
  | literal x => exact result_evaluate_norm v (.literal x)
  | font m => exact result_evaluate_norm v (.font m)
  | image m => exact result_evaluate_norm v (.image m)
  | widget m => exact result_evaluate_norm v (.widget m)
  | property m => exact result_evaluate_norm v (.property m)
  | operation op left right ihleft ihright =>
    intro h
    have hleft : ∀ m ∈ operandFontMetrics left, m.padding ≠ -0 :=
      fun m hm => h m (List.mem_append_left _ hm)
    have hright : ∀ m ∈ operandFontMetrics right, m.padding ≠ -0 :=
      fun m hm => h m (List.mem_append_right _ hm)
    obtain ⟨l, r, hnorm, hl, hr⟩ :=
      eval_norm_operation (fun o => (evaluateOperandIn v rect o).result) rfl
        (fun n hn => ihleft n hn (by subst hn; exact hleft))
        (fun n hn => ihright n hn (by subst hn; exact hright)) op
    rw [hnorm, evaluateIn, evaluateIn]
    simp only [Outcome.result_bind, hl, hr]

theorem readsFont_norm (v : View) (font : String) (n : Node) :
    n.norm.readsFont v font = n.readsFont v font := by
  induction n using Node.induction with
  | literal x => rfl
  | unified u role => rfl
  | font m => exact m.readsFont_norm v font
  | image m => rfl
  | widget m => rfl
  | property m => rfl
  | operation op left right ihleft ihright =>
    obtain ⟨l, r, hnorm, hl, hr⟩ :=
      eval_norm_operation (operandReadsFont v font) rfl ihleft ihright op
    rw [hnorm, readsFont, readsFont, hl, hr]

/-- **A dimension means the same after markup**: the same values and errors in both evaluations,
and the same fonts read, for every widget in every tree. -/
theorem meaning_survives_markup (n : Node) (limit : Nat)
    (hpadding : ∀ m ∈ n.fontMetrics, m.padding ≠ -0) (hlimit : n.height ≤ limit) :
    ∃ n', Call.reread (Node.read limit) n.calls = some (.ok n') ∧
      (∀ v, (n'.evaluate v).result = (n.evaluate v).result) ∧
      (∀ v rect, (n'.evaluateIn v rect).result = (n.evaluateIn v rect).result) ∧
      ∀ v font, n'.readsFont v font = n.readsFont v font := by
  refine ⟨n.norm, ?_, fun v => result_evaluate_norm v n hpadding,
    fun v rect => result_evaluateIn_norm v rect n hpadding, fun v font => readsFont_norm v font n⟩
  rw [reread_of_calls, reread, Nat.zero_add, if_pos hlimit]

theorem meaning_survives_lone_operand :
    let n : Node := .operation .subtract none (some (.font ⟨some "", some "", none, .baseline, 2⟩))
    ∃ n', Call.reread (Node.read 2) n.calls = some (.ok n') ∧
      (∀ v, (n'.evaluate v).result = (n.evaluate v).result) ∧
      (∀ v rect, (n'.evaluateIn v rect).result = (n.evaluateIn v rect).result) ∧
      ∀ v font, n'.readsFont v font = n.readsFont v font :=
  meaning_survives_markup _ 2 (by decide) (by decide)

end Node

end SkinLayout
