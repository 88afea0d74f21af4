import SkinLayout.Dimension.Attempt
import SkinLayout.Proofs.Dimension.Container
import SkinLayout.Proofs.Dimension.Locality
/-!
# When evaluation ends

An attempt has an outcome if the walks end that it starts, and it starts one for each widget whose
size a part is computed from, part after part up to the first that has a fault
(`Node.ends_attempt`).  The outcome is the one of evaluation, so it is an error if a part is faulty
and else it is not (`Node.evaluate_fails_iff`).  In a rectangle unified lengths ask for no size, so
there is more that ends.
-/
namespace SkinLayout

/-! ## Ends -/

namespace Attempt

variable {α β : Type} {x : Attempt α} {o : Outcome α} {P Q : Prop}

/-- Under a condition an attempt has this outcome, and otherwise it has no end. -/
structure Ends (x : Attempt α) (o : Outcome α) (P : Prop) : Prop where
  outcome : P → x.outcome? = some o
  endless : ¬ P → x.outcome? = none

theorem Ends.of_iff (h : x.Ends o P) (hiff : P ↔ Q) : x.Ends o Q :=
  ⟨fun hQ => h.outcome (hiff.2 hQ), fun hQ => h.endless (mt hiff.1 hQ)⟩

theorem Ends.eq_some_iff (h : x.Ends o P) {o' : Outcome α} :
    x.outcome? = some o' ↔ P ∧ o' = o := by
  by_cases hP : P
  · rw [h.outcome hP, Option.some.injEq]
    exact ⟨fun he => ⟨hP, he.symm⟩, fun he => he.2.symm⟩
  · rw [h.endless hP]
    exact ⟨nofun, fun he => absurd he.1 hP⟩

theorem ends_ofOutcome (o : Outcome α) : (ofOutcome o).Ends o True :=
  ⟨fun _ => rfl, fun h => absurd trivial h⟩

theorem ends_ofSize (s : Option (Size Float32)) (f : Size Float32 → α) :
    (ofSize s f).Ends (pure (f (s.getD ⟨0, 0⟩))) s.isSome := by
  cases s with
  | none => exact ⟨nofun, fun _ => rfl⟩
  | some s => exact ⟨fun _ => rfl, fun h => absurd rfl h⟩

/-- What follows matters only if there is no error before it. -/
theorem Ends.bind (h : x.Ends o P) {f : α → Attempt β} {g : α → Outcome β}
    (hf : ∀ a, o.result = .ok a → (f a).Ends (g a) Q) :
    (x >>= f).Ends (o >>= g) (P ∧ (o.error? = none → Q)) := by
  have hbind : (x >>= f).outcome? = (andThen x f).outcome? := rfl
  obtain ⟨result, events⟩ := o
  constructor
  · rintro ⟨hP, hQ⟩
    rw [hbind, andThen, h.outcome hP]
    cases result with
    | error e => rfl
    | ok a =>
      have ha := (hf a rfl).outcome (hQ rfl)
      simp only [Option.bind_some, ha, Option.map_some]
      rfl
  · intro hnot
    by_cases hP : P
    · rw [hbind, andThen, h.outcome hP]
      cases result with
      | error e => exact absurd ⟨hP, fun h => by cases h⟩ hnot
      | ok a =>
        have ha := (hf a rfl).endless fun hQ => hnot ⟨hP, fun _ => hQ⟩
        simp only [Option.bind_some, ha, Option.map_none]
    · rw [hbind, andThen, h.endless hP, Option.bind_none]

end Attempt

/-! ## Sizes that are asked for -/

/-- All of the widgets have a size: from each of them the walk up ends. -/
def Tree.AllSized (t : Tree) (ids : List WidgetId) : Prop := ∀ id ∈ ids, ∃ s, t.Sized id s

namespace Tree

variable {t : Tree} {id : WidgetId} {l l' : List WidgetId}

theorem allSized_nil : t.AllSized [] := fun _ h => absurd h List.not_mem_nil

theorem allSized_append : t.AllSized (l ++ l') ↔ t.AllSized l ∧ t.AllSized l' :=
  List.forall_mem_append

theorem ends_of_nothing {α : Type} (t : Tree) (o : Outcome α) :
    (Attempt.ofOutcome o).Ends o (t.AllSized []) :=
  (Attempt.ends_ofOutcome o).of_iff (iff_of_true trivial allSized_nil)

theorem isSome_pixelSize?_iff_allSized : (t.pixelSize? id).isSome ↔ t.AllSized [id] := by
  rw [isSome_pixelSize?_iff, AllSized, List.forall_mem_singleton]

/-- With fresh numbers for its widgets a tree has no rings. -/
theorem WellFormed.allSized (h : t.WellFormed) (l : List WidgetId) : t.AllSized l :=
  fun id _ => ⟨_, h.sized id⟩

end Tree

theorem View.parentSize_eq_getD (v : View) : v.parentSize = v.parentSize?.getD ⟨0, 0⟩ := by
  unfold parentSize parentSize?
  cases v.widget.parent <;> rfl

theorem View.isSome_parentSize?_iff (v : View) :
    v.parentSize?.isSome ↔ v.tree.AllSized v.widget.parent.toList := by
  unfold parentSize?
  cases v.widget.parent with
  | none => exact ⟨fun _ => Tree.allSized_nil, fun _ => rfl⟩
  | some p => exact Tree.isSome_pixelSize?_iff_allSized

namespace WidgetMetric

/-- The widget whose size a measure is taken from. -/
def asked (role : Role) (w : View) : List WidgetId :=
  match role with
  | .width | .height => [w.id]
  | .leftEdge | .topEdge | .rightEdge | .bottomEdge => w.widget.parent.toList
  | .xOffset | .yOffset | .invalid => []

theorem ends_attemptOn (role : Role) (w : View) :
    (attemptOn role w).Ends (measured role w) (w.tree.AllSized (asked role w)) := by
  have hown (f : Size Float32 → Float32) := (Attempt.ends_ofSize w.pixelSize? f).of_iff
    Tree.isSome_pixelSize?_iff_allSized
  have houter (f : Size Float32 → Float32) := (Attempt.ends_ofSize w.parentSize? f).of_iff
    w.isSome_parentSize?_iff
  simp only [← w.parentSize_eq_getD] at houter
  cases role
  case width | height => exact hown _
  case leftEdge | topEdge | rightEdge | bottomEdge => exact houter _
  case xOffset | yOffset | invalid => exact w.tree.ends_of_nothing _

end WidgetMetric

namespace PropertyMetric

/-- The widget whose size a number is taken from, if the property is there and holds a length. -/
def asked (m : PropertyMetric) (w : View) : List WidgetId :=
  match w.property? m.property, m.axis with
  | some p, some _ =>
    match Unified.ofChars p.value.toList with
    | .ok _ => [w.id]
    | .error _ => []
  | _, _ => []

theorem ends_attemptOn (m : PropertyMetric) (w : View) :
    (m.attemptOn w).Ends (Outcome.ofLogged (m.valueOn w)) (w.tree.AllSized (m.asked w)) := by
  have hnone := w.tree.ends_of_nothing (Outcome.ofLogged (m.valueOn w))
  unfold attemptOn asked
  cases hp : w.property? m.property with
  | none => exact hnone
  | some p =>
    cases haxis : m.axis with
    | none => exact hnone
    | some axis =>
      cases hread : Unified.ofChars p.value.toList with
      | error fault =>
        simp only [hread]
        exact hnone
      | ok u =>
        have hvalue : Outcome.ofLogged (m.valueOn w) =
            pure (u.toPixels true (axis.extent (w.pixelSize?.getD ⟨0, 0⟩))) := by
          unfold valueOn
          simp only [hp, haxis, lengthValue, hread]
          rfl
        simp only [hread, hvalue]
        exact (Attempt.ends_ofSize w.pixelSize? _).of_iff Tree.isSome_pixelSize?_iff_allSized

end PropertyMetric

/-! ## Nodes -/

namespace Node

/-- The widgets whose sizes a part is computed from, if unified lengths are resolved in the sizes of
`own`. -/
def asked (own : List WidgetId) (v : View) : Node → List WidgetId
  | .unified _ role => if role.axis?.isSome then own else []
  | .widget m => (v.target? m.widget).elim [] (WidgetMetric.asked m.role)
  | .property m => (v.target? m.widget).elim [] m.asked
  | _ => []

/-- What is asked for by the parts before the first that has a fault. -/
def awaited (own : List WidgetId) (v : View) (parts : List Node) : List WidgetId :=
  (parts.takeWhile fun part => (part.fault? v).isNone).flatMap (asked own v)

variable {v : View} {own : List WidgetId} {size? : Option (Size Float32)} {r : Rect}

theorem awaited_nil (own : List WidgetId) (v : View) : awaited own v [] = [] := rfl

/-- Nothing is asked for after an error. -/
theorem allSized_awaited_append {t : Tree} (parts parts' : List Node) :
    t.AllSized (awaited own v (parts ++ parts')) ↔
      t.AllSized (awaited own v parts) ∧
        (firstError? v parts = none → t.AllSized (awaited own v parts')) := by
  induction parts with
  | nil => simp [awaited, firstError?, Tree.allSized_nil]
  | cons part parts ih =>
    cases hfault : part.fault? v with
    | some cause => simp [awaited, firstError?, hfault, Tree.allSized_nil]
    | none =>
      have hfirst : firstError? v (part :: parts) = firstError? v parts := by
        simp [firstError?, hfault]
      have hcons (l : List Node) :
          awaited own v (part :: l) = part.asked own v ++ awaited own v l := by
        simp [awaited, hfault]
      rw [List.cons_append, hcons, hcons, Tree.allSized_append, Tree.allSized_append, ih, hfirst,
        and_assoc]

/-- A part that has a fault asks for nothing. -/
theorem asked_of_faulty {n : Node} (h : n.Faulty v) : n.asked own v = [] := by
  have hpath (path : Option String) : asked own v (.widget ⟨path, .invalid⟩) = [] := by
    rw [asked]
    cases v.target? path <;> rfl
  cases h with
  | unified u => rfl
  | self => exact hpath none
  | emptyPath => exact hpath (some "")
  | child hchild => exact hpath _
  | operation left right => rfl

theorem awaited_singleton (n : Node) : awaited own v [n] = n.asked own v := by
  cases hfault : n.fault? v with
  | none => simp [awaited, hfault]
  | some cause =>
    have hfaulty : n.Faulty v := isSome_fault?_iff.1 (by rw [hfault]; rfl)
    simp [awaited, hfault, asked_of_faulty hfaulty]

theorem ends_unified (hown : size?.isSome ↔ v.tree.AllSized own) (u : Unified) (role : Role) :
    (u.attempt role size?).Ends (Outcome.ofExcept (u.along role (size?.getD ⟨0, 0⟩)))
      (v.tree.AllSized (asked own v (.unified u role))) := by
  rw [asked]
  unfold Unified.attempt Unified.along
  cases role.axis? with
  | none => exact v.tree.ends_of_nothing _
  | some axis => exact (Attempt.ends_ofSize size? _).of_iff hown

theorem ends_widget (m : WidgetMetric) (v : View) :
    (m.attempt v).Ends (m.evaluate v) (v.tree.AllSized (asked own v (.widget m))) := by
  rw [asked]
  unfold WidgetMetric.attempt WidgetMetric.evaluate
  cases htarget : v.target? m.widget with
  | none => exact v.tree.ends_of_nothing _
  | some w =>
    rw [← View.tree_of_target? htarget]
    exact WidgetMetric.ends_attemptOn m.role w

theorem ends_property (m : PropertyMetric) (v : View) :
    (m.attempt v).Ends (Outcome.ofLogged (m.evaluate v))
      (v.tree.AllSized (asked own v (.property m))) := by
  rw [asked]
  unfold PropertyMetric.attempt PropertyMetric.evaluate
  cases htarget : v.target? m.widget with
  | none => exact v.tree.ends_of_nothing _
  | some w =>
    rw [← View.tree_of_target? htarget]
    exact m.ends_attemptOn w

/-- **An attempt ends exactly if all sizes are there that it asks for**, and then as evaluation does
in a rectangle of the size that unified lengths are resolved in. -/
theorem ends_attemptWith (hown : size?.isSome ↔ v.tree.AllSized own)
    (hsize : r.size = size?.getD ⟨0, 0⟩) (n : Node) :
    (n.attemptWith size? v).Ends (n.evaluateIn v r)
      (v.tree.AllSized (awaited own v n.parts)) := by
  induction n using Node.induction with
  | literal x => exact v.tree.ends_of_nothing _
  | unified u role =>
    have hparts : awaited own v (parts (.unified u role)) = _ := awaited_singleton _
    rw [hparts, evaluateIn, hsize]
    exact ends_unified hown u role
  | font m => exact v.tree.ends_of_nothing _
  | image m => exact v.tree.ends_of_nothing _
  | widget m =>
    have hparts : awaited own v (parts (.widget m)) = _ := awaited_singleton _
    rw [hparts]
    exact ends_widget m v
  | property m =>
    have hparts : awaited own v (parts (.property m)) = _ := awaited_singleton _
    rw [hparts]
    exact ends_property m v
  | operation op left right ihleft ihright =>
    have hleft : (attemptOperand size? v left).Ends (evaluateOperandIn v r left)
        (v.tree.AllSized (awaited own v (operandParts left))) :=
      operand_cases left (v.tree.ends_of_nothing _) ihleft
    have hright : (attemptOperand size? v right).Ends (evaluateOperandIn v r right)
        (v.tree.AllSized (awaited own v (operandParts right))) :=
      operand_cases right (v.tree.ends_of_nothing _) ihright
    have herror : (evaluateOperandIn v r left).error? = firstError? v (operandParts left) :=
      operand_cases left rfl fun n _ => n.error?_evaluateIn v r
    have hoperator : awaited own v [.operation op left right] = [] :=
      awaited_singleton _
    refine (hleft.bind fun x _ => hright.bind fun y _ =>
      Attempt.ends_ofOutcome (Outcome.ofAnswer (op.apply x y))).of_iff ?_
    rw [parts, allSized_awaited_append, allSized_awaited_append, herror, hoperator]
    simp [Tree.allSized_nil]

theorem ends_attempt (n : Node) (v : View) :
    (n.attempt v).Ends (n.evaluate v) (v.tree.AllSized (awaited [v.id] v n.parts)) := by
  rw [← n.evaluateIn_own (r := .ofSize ⟨0, 0⟩ v.pixelSize) rfl]
  exact ends_attemptWith Tree.isSome_pixelSize?_iff_allSized rfl n

end Node

/-- Two widgets, each of them the parent of the other. -/
def Tree.ring : Tree :=
  (((Tree.ofResources (.ofDisplay ⟨300, 200⟩)).addRoot 1 (.named "a")).addChild 1 2
    (.named "b")).addChild 2 1 (.named "a")

namespace Area

variable {v : View} {own : List WidgetId} {size? : Option (Size Float32)}

/-- The widgets whose sizes an area is computed from: the rectangle in its property is resolved in
the sizes of `own`, and without one the dimensions ask one after the other. -/
def awaited (own : List WidgetId) (v : View) (a : Area) : List WidgetId :=
  match (a.propertyRect v).value with
  | some _ => own
  | none => Node.awaited own v (a.dimensions.flatMap fun d => d.node.parts)

theorem ends_combined (a : Area) {f : Dimension → Attempt Float32} {g : Dimension → Outcome Float32}
    (hends : ∀ d, (f d).Ends (g d) (v.tree.AllSized (Node.awaited own v d.node.parts)))
    (herror : ∀ d, (g d).error? = Node.firstError? v d.node.parts) :
    (a.combined f).Ends (a.combined g)
      (v.tree.AllSized (Node.awaited own v (a.dimensions.flatMap fun d => d.node.parts))) := by
  unfold combined
  refine ((hends a.left).bind fun left _ => (hends a.top).bind fun top _ =>
    (hends a.right).bind fun right _ => (hends a.bottom).bind fun bottom _ =>
      Attempt.ends_ofOutcome (pure _)).of_iff ?_
  simp only [dimensions, List.flatMap_cons, List.flatMap_nil, Node.allSized_awaited_append, herror,
    Node.awaited_nil, Tree.allSized_nil, implies_true]

theorem ends_attemptWith (hown : size?.isSome ↔ v.tree.AllSized own) (a : Area) :
    (a.attemptWith size? v).Ends (a.rectWithin v (size?.getD ⟨0, 0⟩))
      (v.tree.AllSized (a.awaited own v)) := by
  have hproperty := Attempt.ends_ofOutcome (Outcome.ofLogged (a.propertyRect v))
  refine (hproperty.bind (Q := v.tree.AllSized (a.awaited own v)) fun o ho => ?_).of_iff
    ⟨fun h => h.2 rfl, fun h => ⟨trivial, fun _ => h⟩⟩
  cases ho
  unfold awaited
  cases (a.propertyRect v).value with
  | some r => exact (Attempt.ends_ofSize size? _).of_iff hown
  | none =>
    apply a.ends_combined
    · exact fun d => Node.ends_attemptWith hown rfl d.node
    · exact fun d => d.node.error?_evaluateIn v _

theorem ends_attempt (a : Area) (v : View) :
    (a.attempt v).Ends (a.pixelRect v) (v.tree.AllSized (a.awaited [v.id] v)) := by
  rw [← a.rectWithin_own v]
  exact ends_attemptWith Tree.isSome_pixelSize?_iff_allSized a

end Area

end SkinLayout
