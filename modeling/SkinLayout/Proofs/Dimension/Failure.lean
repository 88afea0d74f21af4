import SkinLayout.Dimension.Evaluate
/-!
# When evaluation fails

Whether a node has a value depends on its parts alone: on the invalid operator, and on the invalid
role where one is needed.  The parts are looked at in the order of evaluation, operands before
their operator, and the first that has a fault gives the error (`error?_evaluate`).  A rectangle in
the widget's place changes values and no error.
-/
namespace SkinLayout

/-! ## Errors of outcomes -/

namespace Outcome

variable {α β : Type}

/-- The error of an outcome that has no result. -/
def error? (x : Outcome α) : Option LayoutError :=
  match x.result with
  | .error e => some e
  | .ok _ => none

/-- If what follows fails the same way whatever comes before, the first error counts. -/
theorem error?_bind (x : Outcome α) {f : α → Outcome β} {o : Option LayoutError}
    (hf : ∀ a, (f a).error? = o) : (x >>= f).error? = x.error?.or o := by
  unfold error?
  rw [result_bind]
  cases x.result with
  | error e => rfl
  | ok a => exact hf a

end Outcome

/-! ## Parts and their faults -/

namespace Node

mutual

/-- A node and all below it, in the order of evaluation. -/
def parts : Node → List Node
  | .operation op left right =>
    operandParts left ++ operandParts right ++ [.operation op left right]
  | n => [n]

def operandParts : Option Node → List Node
  | none => []
  | some n => n.parts

end

/-- Why a part has no value, if all below it have one. -/
def fault? (v : View) : Node → Option BadRequest
  | .unified _ .invalid => some .unresolvableRole
  | .widget ⟨path, .invalid⟩ => (v.target? path).map fun w => .unmeasurableRole w.name
  | .operation .invalid _ _ => some .invalidOperator
  | _ => none

/-- The error of the first part that has a fault. -/
def firstError? (v : View) (parts : List Node) : Option LayoutError :=
  (parts.findSome? (fault? v)).map .invalidRequest

theorem firstError?_append (v : View) (l l' : List Node) :
    firstError? v (l ++ l') = (firstError? v l).or (firstError? v l') := by
  rw [firstError?, List.findSome?_append, Option.map_or]
  rfl

theorem firstError?_singleton (v : View) (n : Node) :
    firstError? v [n] = (n.fault? v).map .invalidRequest := by
  rw [firstError?, List.findSome?_singleton]

/-! ## Errors of nodes -/

variable {v : View}

theorem error?_along (u : Unified) (role : Role) (size : Size Float32) :
    (Outcome.ofExcept (u.along role size)).error? = firstError? v [.unified u role] := by
  cases role <;> rfl

theorem error?_widget (m : WidgetMetric) : (m.evaluate v).error? = firstError? v [.widget m] := by
  obtain ⟨path, role⟩ := m
  rw [firstError?_singleton]
  unfold WidgetMetric.evaluate
  cases htarget : v.target? path with
  | none => cases role <;> simp [fault?, htarget] <;> rfl
  | some w => cases role <;> simp [fault?, htarget] <;> rfl

/-- The operands come first, the left one before the right one; the operator is looked at last. -/
theorem error?_operation (op : Operator) {left right : Option Node} {x y : Outcome Float32}
    (hx : x.error? = firstError? v (operandParts left))
    (hy : y.error? = firstError? v (operandParts right)) :
    (do
      let a ← x
      let b ← y
      Outcome.ofAnswer (op.apply a b)).error? =
      firstError? v (parts (.operation op left right)) := by
  have happly : ∀ a b, (Outcome.ofAnswer (op.apply a b)).error? =
      firstError? v [.operation op left right] := by
    intro a b
    cases op <;> rfl
  have hright : ∀ a, (y >>= fun b => Outcome.ofAnswer (op.apply a b)).error? =
      (firstError? v (operandParts right)).or (firstError? v [.operation op left right]) := by
    intro a
    rw [y.error?_bind (happly a), hy]
  rw [x.error?_bind hright, hx, parts, firstError?_append, firstError?_append, Option.or_assoc]

theorem error?_evaluateIn (v : View) (r : Rect) (n : Node) :
    (n.evaluateIn v r).error? = firstError? v n.parts := by
  induction n using Node.induction with
  | literal x => rfl
  | unified u role => exact error?_along u role _
  | font m => rfl
  | image m => rfl
  | widget m => exact error?_widget m
  | property m => rfl
  | operation op left right ihleft ihright =>
    exact error?_operation op (operand_cases left rfl ihleft) (operand_cases right rfl ihright)

/-! ## Faulty parts -/

/-- The parts that have a fault: the invalid operator, and the invalid role of a unified length or
of a widget that is there. -/
inductive Faulty (v : View) : Node → Prop
  | unified (u : Unified) : Faulty v (.unified u .invalid)
  | self : Faulty v (.widget ⟨none, .invalid⟩)
  | emptyPath : Faulty v (.widget ⟨some "", .invalid⟩)
  | child {path : String} {w : View} (hchild : v.child? path = some w) :
    Faulty v (.widget ⟨some path, .invalid⟩)
  | operation (left right : Option Node) : Faulty v (.operation .invalid left right)

theorem isSome_fault?_widget (path : Option String) :
    (fault? v (.widget ⟨path, .invalid⟩)).isSome = (v.target? path).isSome := Option.isSome_map

theorem Faulty.isSome_fault? {n : Node} (h : n.Faulty v) : (n.fault? v).isSome := by
  cases h with
  | unified u => rfl
  | self => rfl
  | emptyPath => rfl
  | @child path w hchild =>
    rw [isSome_fault?_widget, View.target?]
    split
    · rfl
    · rw [hchild]; rfl
  | operation left right => rfl

theorem faulty_of_isSome_fault? {n : Node} (h : (n.fault? v).isSome) : n.Faulty v := by
  unfold fault? at h
  split at h
  case h_1 u => exact .unified u
  case h_2 path =>
    rw [Option.isSome_map] at h
    match path with
    | none => exact .self
    | some path =>
      by_cases hempty : path = ""
      · subst hempty
        exact .emptyPath
      · rw [View.target?, if_neg hempty] at h
        obtain ⟨w, hw⟩ := Option.isSome_iff_exists.1 h
        exact .child hw
  case h_3 left right => exact .operation left right
  case h_4 => cases h

theorem isSome_fault?_iff {n : Node} : (n.fault? v).isSome ↔ n.Faulty v :=
  ⟨faulty_of_isSome_fault?, Faulty.isSome_fault?⟩

end Node

end SkinLayout
