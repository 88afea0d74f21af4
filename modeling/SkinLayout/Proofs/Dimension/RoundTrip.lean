import SkinLayout.Dimension.Read
import SkinLayout.Dimension.Write
import SkinLayout.Proofs.Markup.Collect
import SkinLayout.Proofs.Number.RoundTrip
/-!
# Dimensions through markup

A dimension that was written and is read again comes back in normal form (`Node.norm`), or is
refused because it is higher than the reader goes (`Node.result_readAt`).  The reader looks at an
attribute by its name, so each is read back by one lemma about lookups in the writer's list.
-/
namespace SkinLayout

/-! ## Normal form -/

/-- An empty name is none. -/
def normName (s : Option String) : Option String := s.filter fun v => v ≠ ""

/-- The negative zero is the zero. -/
def normPadding (x : Float32) : Float32 := if x = -0 then 0 else x

def FontMetric.norm (m : FontMetric) : FontMetric :=
  ⟨normName m.widget, normName m.font, normName m.text, m.measure, normPadding m.padding⟩

def ImageSource.norm : ImageSource → ImageSource
  | .named name => .named name
  | .property widget key => .property (normName widget) key

def ImageMetric.norm (m : ImageMetric) : ImageMetric := ⟨m.source.norm, m.measure⟩

def WidgetMetric.norm (m : WidgetMetric) : WidgetMetric := ⟨normName m.widget, m.role⟩

def PropertyMetric.norm (m : PropertyMetric) : PropertyMetric :=
  ⟨normName m.widget, m.property, m.axis⟩

namespace Node

mutual

/-- The form in which a node comes back from markup: no empty names, no padding of negative zero,
and a zero to the left of a lone right operand. -/
def norm : Node → Node
  | .literal x => .literal x
  | .unified u role => .unified u role
  | .font m => .font m.norm
  | .image m => .image m.norm
  | .widget m => .widget m.norm
  | .property m => .property m.norm
  | .operation op none (some r) => .operation op (some (.literal 0)) (some r.norm)
  | .operation op left right => .operation op (normOperand left) (normOperand right)

def normOperand : Option Node → Option Node
  | none => none
  | some n => some n.norm

end

end Node

def Dimension.norm (d : Dimension) : Dimension := ⟨d.role, d.node.norm⟩

/-! ## Attributes by name -/

namespace Element

def valueIn (key : String) (attributes : List (String × String)) : Option String :=
  (attributes.find? fun a => a.1 == key).map Prod.snd

theorem attribute?_eq (name : String) (attributes : List (String × String))
    (children : List Element) (key : String) :
    attribute? ⟨name, attributes, children⟩ key = valueIn key attributes := rfl

@[simp] theorem valueIn_nil (key : String) : valueIn key [] = none := rfl

@[simp] theorem valueIn_cons (key : String) (a : String × String) (l : List (String × String)) :
    valueIn key (a :: l) = if a.1 = key then some a.2 else valueIn key l := by
  unfold valueIn
  rw [List.find?_cons]
  by_cases h : a.1 = key
  · simp [h]
  · simp [h, beq_eq_false_iff_ne.2 h]

@[simp] theorem valueIn_append (key : String) (l l' : List (String × String)) :
    valueIn key (l ++ l') = (valueIn key l).or (valueIn key l') := by
  unfold valueIn
  rw [List.find?_append]
  cases l.find? fun a => a.1 == key <;> rfl

@[simp] theorem valueIn_optionalAttribute (key name : String) (v : Option String) :
    valueIn key (optionalAttribute name v) = if name = key then v else none := by
  cases v <;> simp [optionalAttribute]

@[simp] theorem valueIn_paddingAttribute (key : String) (x : Float32) :
    valueIn key (paddingAttribute x) =
      if "padding" = key ∧ ¬ (x == 0) = true then some (Single.toText x) else none := by
  unfold paddingAttribute
  by_cases h : (x == 0) = true <;> simp [h]

end Element

/-! ## Names read back -/

theorem Role.trimmed_name (r : Role) : trimmed r.name = r.name := by cases r <;> rfl

theorem Operator.trimmed_name (op : Operator) : trimmed op.name = op.name := by cases op <;> rfl

/-- **Every role reads back**, the invalid one as a name nobody knows. -/
theorem Role.value_ofText_name (r : Role) : (Role.ofText r.name).value = r := by
  unfold Role.ofText
  rw [Role.trimmed_name]
  by_cases h : r = .invalid
  · subst h; rfl
  · rw [Role.ofName?_name h]; rfl

theorem Operator.value_ofText_name (op : Operator) : (Operator.ofText op.name).value = op := by
  unfold Operator.ofText
  rw [Operator.trimmed_name]
  by_cases h : op = .invalid
  · subst h; rfl
  · rw [Operator.ofName?_name h]; rfl

theorem FontMeasure.ofText_name (m : FontMeasure) : FontMeasure.ofText m.name = .ok m := by
  cases m <;> rfl

theorem ImageMeasure.ofText_name (m : ImageMeasure) : ImageMeasure.ofText m.name = .ok m := by
  cases m <;> rfl

namespace Element

variable {e : Element} {key : String}

theorem required_eq {v : String} (h : e.attribute? key = some v) : e.required key = .ok v := by
  unfold required
  rw [h]

theorem result_role {r : Role} (h : e.attribute? key = some r.name) :
    (e.role key).result = .ok r := by
  unfold role
  rw [required_eq h, Outcome.result_bind, Outcome.result_ofExcept, Outcome.ok_bind,
    Outcome.result_ofLogged, Role.value_ofText_name]

theorem fontMeasure_eq {m : FontMeasure} (h : e.attribute? key = some m.name) :
    e.fontMeasure key = .ok m := by
  unfold fontMeasure
  rw [required_eq h, Outcome.ok_bind, FontMeasure.ofText_name]

theorem imageMeasure_eq {m : ImageMeasure} (h : e.attribute? key = some m.name) :
    e.imageMeasure key = .ok m := by
  unfold imageMeasure
  rw [required_eq h, Outcome.ok_bind, ImageMeasure.ofText_name]

theorem readFloat_toText (e : Element) (key : String) (x : Float32) :
    e.readFloat key (Single.toText x) = .ok x := by
  unfold readFloat
  rw [Single.ofChars?_trim_toText]

theorem float_eq {x : Float32} (h : e.attribute? key = some (Single.toText x)) :
    e.float key = .ok x := by
  unfold float
  rw [required_eq h, Outcome.ok_bind, readFloat_toText]

theorem floatD_eq {x : Float32} (h : e.attribute? key = some (Single.toText x)) (d : Float32) :
    e.floatD key d = .ok x := by
  unfold floatD
  rw [h]
  exact readFloat_toText e key x

end Element

/-! ## Leaves -/

theorem FontMetric.floatD_padding (m : FontMetric) :
    m.toElement.floatD "padding" 0 = .ok (normPadding m.padding) := by
  unfold normPadding
  by_cases hzero : (m.padding == 0) = true
  · have hattr : m.toElement.attribute? "padding" = none := by
      simp [FontMetric.toElement, Element.attribute?_eq, hzero]
    unfold Element.floatD
    rw [hattr]
    rcases (Single.beq_zero_iff _).1 hzero with h | h <;> rw [h] <;> rfl
  · have hattr : m.toElement.attribute? "padding" = some (Single.toText m.padding) := by
      simp [FontMetric.toElement, Element.attribute?_eq, hzero]
    rw [Element.floatD_eq hattr, if_neg fun h => hzero ((Single.beq_zero_iff _).2 (.inr h))]

theorem FontMetric.read_toElement (m : FontMetric) : FontMetric.read m.toElement = .ok m.norm := by
  have htype : m.toElement.attribute? "type" = some m.measure.name := by
    simp [FontMetric.toElement, Element.attribute?_eq]
  have hname : ∀ key v, m.toElement.attribute? key = v → m.toElement.optional? key = normName v :=
    fun key v h => by rw [← h]; rfl
  unfold FontMetric.read
  rw [Element.fontMeasure_eq htype, FontMetric.floatD_padding, Outcome.ok_bind, Outcome.ok_bind,
    hname "widget" m.widget (by simp [FontMetric.toElement, Element.attribute?_eq]),
    hname "font" m.font (by simp [FontMetric.toElement, Element.attribute?_eq]),
    hname "string" m.text (by simp [FontMetric.toElement, Element.attribute?_eq])]
  rfl

theorem ImageMetric.read_toElement (m : ImageMetric) :
    (Node.readLeaf m.toElement).result = .ok (.image m.norm) := by
  obtain ⟨source, measure⟩ := m
  cases source with
  | named name =>
    have hmeasure : (ImageMetric.toElement ⟨.named name, measure⟩).imageMeasure "dimension" =
        .ok measure := Element.imageMeasure_eq (by simp [toElement, Element.attribute?_eq])
    have hname : (ImageMetric.toElement ⟨.named name, measure⟩).required "name" = .ok name :=
      Element.required_eq (by simp [toElement, Element.attribute?_eq])
    show (Outcome.ofExcept (ImageMetric.readNamed _) >>= _).result = _
    rw [ImageMetric.readNamed, hmeasure, Outcome.ok_bind, hname]
    rfl
  | property widget key =>
    have hmeasure : (ImageMetric.toElement ⟨.property widget key, measure⟩).imageMeasure
        "dimension" = .ok measure :=
      Element.imageMeasure_eq (by simp [toElement, Element.attribute?_eq])
    have hname : (ImageMetric.toElement ⟨.property widget key, measure⟩).required "name" =
        .ok key := Element.required_eq (by simp [toElement, Element.attribute?_eq])
    have hwidget : (ImageMetric.toElement ⟨.property widget key, measure⟩).optional? "widget" =
        normName widget := by
      simp [toElement, Element.attribute?_eq, Element.optional?, normName]
    show (Outcome.ofExcept (ImageMetric.readProperty _) >>= _).result = _
    rw [ImageMetric.readProperty, hmeasure, Outcome.ok_bind, hname, Outcome.ok_bind, hwidget]
    rfl

theorem WidgetMetric.result_read_toElement (m : WidgetMetric) :
    (WidgetMetric.read m.toElement).result = .ok m.norm := by
  have hrole : (m.toElement.role "dimension").result = .ok m.role :=
    Element.result_role (by simp [toElement, Element.attribute?_eq])
  have hwidget : m.toElement.optional? "widget" = normName m.widget := by
    simp [toElement, Element.attribute?_eq, Element.optional?, normName]
  unfold WidgetMetric.read
  rw [Outcome.result_bind, hrole, hwidget]
  rfl

theorem PropertyMetric.result_read_toElement (m : PropertyMetric) :
    (PropertyMetric.read m.toElement).result = .ok m.norm := by
  have htype : m.toElement.attribute? "type" = m.axis.map fun a => a.role.name := by
    simp [toElement, Element.attribute?_eq]
  have haxis : (m.toElement.axis? "type").result = .ok m.axis := by
    unfold Element.axis?
    rw [htype]
    cases m.axis with
    | none => rfl
    | some a => cases a <;> rfl
  have hname : m.toElement.required "name" = .ok m.property :=
    Element.required_eq (by simp [toElement, Element.attribute?_eq])
  have hwidget : m.toElement.optional? "widget" = normName m.widget := by
    simp [toElement, Element.attribute?_eq, Element.optional?, normName]
  unfold PropertyMetric.read
  rw [Outcome.result_bind, haxis, Outcome.ok_bind, hname, hwidget]
  rfl

namespace Node

/-- The nodes that have an element without children. -/
def isLeaf : Node → Bool
  | .operation _ _ _ => false
  | _ => true

theorem height_of_isLeaf {n : Node} (h : n.isLeaf = true) : n.height = 1 := by
  cases n <;> first | rfl | cases h

theorem result_readLeaf_unified (u : Unified) (role : Role) :
    (readLeaf (toElement (.unified u role))).result = .ok (.unified u role) := by
  have hscale : (toElement (.unified u role)).floatD "scale" 0 = .ok u.scale :=
    Element.floatD_eq (by simp [toElement, Element.attribute?_eq]) 0
  have hoffset : (toElement (.unified u role)).floatD "offset" 0 = .ok u.offset :=
    Element.floatD_eq (by simp [toElement, Element.attribute?_eq]) 0
  have hrole : ((toElement (.unified u role)).role "type").result = .ok role :=
    Element.result_role (by simp [toElement, Element.attribute?_eq])
  show (Outcome.ofExcept (Element.floatD _ "scale" 0) >>= fun _ =>
    Outcome.ofExcept (Element.floatD _ "offset" 0) >>= fun _ =>
      Element.role _ "type" >>= _).result = _
  simp only [Outcome.result_bind, Outcome.result_ofExcept, hscale, hoffset, hrole, Outcome.ok_bind]
  rfl

theorem result_readLeaf {n : Node} (h : n.isLeaf = true) :
    (readLeaf n.toElement).result = .ok n.norm := by
  cases n with
  | literal x =>
    have hvalue : (literalElement x).float "value" = .ok x :=
      Element.float_eq (by simp [literalElement, Element.attribute?_eq])
    show (Outcome.ofExcept ((literalElement x).float "value") >>= _).result = _
    rw [hvalue]
    rfl
  | unified u role => exact result_readLeaf_unified u role
  | font m =>
    show (Outcome.ofExcept (FontMetric.read m.toElement) >>= _).result = _
    rw [FontMetric.read_toElement]
    rfl
  | image m => exact ImageMetric.read_toElement m
  | widget m =>
    show (WidgetMetric.read m.toElement >>= _).result = _
    rw [Outcome.result_bind, WidgetMetric.result_read_toElement]
    rfl
  | property m =>
    show (PropertyMetric.read m.toElement >>= _).result = _
    rw [Outcome.result_bind, PropertyMetric.result_read_toElement]
    rfl
  | operation op left right => cases h

/-! ## Trees -/

theorem height_pos (n : Node) : 1 ≤ n.height := by
  cases n <;> simp only [height] <;> omega

theorem readAt_eq (limit depth : Nat) (e : Element) : readAt limit depth e =
    if limit ≤ depth then Outcome.fail (.nestingTooDeep limit)
    else if e.name = "OperatorDim" then do
      let op ← Outcome.ofLogged (e.operatorD "op" .noop)
      let o ← readOperands limit (depth + 1) (Operation.ofOperator op) e.children
      return o.toNode
    else readLeaf e := by
  cases e
  rw [readAt]

theorem result_readOperands_cons (limit depth : Nat) (o : Operation) (e : Element)
    (es : List Element) : (readOperands limit depth o (e :: es)).result =
      (readAt limit depth e).result >>= fun n => o.addOperand n >>= fun o' =>
        (readOperands limit depth o' es).result := by
  rw [readOperands]
  simp only [Outcome.result_bind, Outcome.result_ofExcept]

/-- What becomes of a node that was written and is read at a depth. -/
def reread (limit depth : Nat) (n : Node) : Except LayoutError Node :=
  if depth + n.height ≤ limit then .ok n.norm else .error (.nestingTooDeep limit)

theorem name_toElement_of_isLeaf {n : Node} (h : n.isLeaf = true) :
    n.toElement.name ≠ "OperatorDim" := by
  cases n with
  | literal x => simp [toElement, literalElement]
  | unified u role => simp [toElement]
  | font m => simp [toElement, FontMetric.toElement]
  | image m => obtain ⟨_ | _, measure⟩ := m <;> simp [toElement, ImageMetric.toElement]
  | widget m => simp [toElement, WidgetMetric.toElement]
  | property m => simp [toElement, PropertyMetric.toElement]
  | operation op left right => cases h

theorem result_readAt_leaf {n : Node} (h : n.isLeaf = true) (limit depth : Nat) :
    (readAt limit depth n.toElement).result = reread limit depth n := by
  unfold reread
  rw [readAt_eq, height_of_isLeaf h]
  by_cases hdepth : limit ≤ depth
  · rw [if_pos hdepth, if_neg (by omega), Outcome.result_fail]
  · rw [if_neg hdepth, if_neg (name_toElement_of_isLeaf h), if_pos (by omega), result_readLeaf h]

theorem attributes_toElement_operation (op : Operator) (left right : Option Node) :
    ∃ children, toElement (.operation op left right) =
      ⟨"OperatorDim", [("op", op.name)], children⟩ := by
  cases left <;> cases right <;> exact ⟨_, rfl⟩

theorem result_readAt_operation (op : Operator) (left right : Option Node) (limit depth : Nat) :
    (readAt limit depth (toElement (.operation op left right))).result =
      if limit ≤ depth then .error (.nestingTooDeep limit)
      else (readOperands limit (depth + 1) (Operation.ofOperator op)
        (toElement (.operation op left right)).children).result >>= fun o => .ok o.toNode := by
  obtain ⟨children, he⟩ := attributes_toElement_operation op left right
  rw [he, readAt_eq]
  by_cases hdepth : limit ≤ depth
  · rw [if_pos hdepth, if_pos hdepth, Outcome.result_fail]
  · have hop : (Element.operatorD ⟨"OperatorDim", [("op", op.name)], children⟩ "op" .noop).value =
        op := Operator.value_ofText_name op
    rw [if_neg hdepth, if_neg hdepth, if_pos rfl]
    simp only [Outcome.result_bind, Outcome.result_ofLogged, hop, Outcome.ok_bind,
      Outcome.result_pure]

theorem result_readOperands_of_le {n : Node} {limit depth : Nat} {o o' : Operation}
    (hread : (readAt limit depth n.toElement).result = reread limit depth n)
    (hn : depth + n.height ≤ limit) (ho : o.addOperand n.norm = .ok o') (es : List Element) :
    (readOperands limit depth o (n.toElement :: es)).result =
      (readOperands limit depth o' es).result := by
  rw [result_readOperands_cons, hread, reread, if_pos hn, Outcome.ok_bind, ho, Outcome.ok_bind]

/-- An operand that is too high ends the reading, whatever comes after it. -/
theorem result_readOperands_of_lt {n : Node} {limit depth : Nat}
    (hread : (readAt limit depth n.toElement).result = reread limit depth n)
    (hn : ¬ depth + n.height ≤ limit) (o : Operation) (es : List Element) :
    (readOperands limit depth o (n.toElement :: es)).result = .error (.nestingTooDeep limit) := by
  rw [result_readOperands_cons, hread, reread, if_neg hn, Outcome.error_bind]

theorem result_readAt_pair (op : Operator) {l r : Node}
    (hl : ∀ limit depth, (readAt limit depth l.toElement).result = reread limit depth l)
    (hr : ∀ limit depth, (readAt limit depth r.toElement).result = reread limit depth r)
    (limit depth : Nat) :
    (readAt limit depth (toElement (.operation op (some l) (some r)))).result =
      reread limit depth (.operation op (some l) (some r)) := by
  rw [result_readAt_operation]
  unfold reread
  by_cases hdepth : limit ≤ depth
  · rw [if_pos hdepth, if_neg (by simp only [height]; omega)]
  · rw [if_neg hdepth]
    show (readOperands limit (depth + 1) _ [l.toElement, r.toElement]).result >>= _ = _
    by_cases hfitl : depth + 1 + l.height ≤ limit
    · rw [result_readOperands_of_le (hl _ _) hfitl rfl]
      by_cases hfitr : depth + 1 + r.height ≤ limit
      · rw [result_readOperands_of_le (hr _ _) hfitr rfl,
          if_pos (by simp only [height, operandHeight]; omega)]
        rfl
      · rw [result_readOperands_of_lt (hr _ _) hfitr,
          if_neg (by simp only [height, operandHeight]; omega)]
        rfl
    · rw [result_readOperands_of_lt (hl _ _) hfitl,
        if_neg (by simp only [height, operandHeight]; omega)]
      rfl

/-- **Reading what was written gives the normal form, or finds it too high.** -/
theorem result_readAt (n : Node) : ∀ limit depth,
    (readAt limit depth n.toElement).result = reread limit depth n := by
  induction n using Node.induction with
  | literal x => exact result_readAt_leaf rfl
  | unified u role => exact result_readAt_leaf rfl
  | font m => exact result_readAt_leaf rfl
  | image m => exact result_readAt_leaf rfl
  | widget m => exact result_readAt_leaf rfl
  | property m => exact result_readAt_leaf rfl
  | operation op left right ihleft ihright =>
    intro limit depth
    match left, right with
    | none, none =>
      rw [result_readAt_operation]
      unfold reread
      by_cases hdepth : limit ≤ depth
      · rw [if_pos hdepth, if_neg (by simp only [height]; omega)]
      · rw [if_neg hdepth, if_pos (by simp only [height, operandHeight]; omega)]
        rfl
    | some l, none =>
      rw [result_readAt_operation]
      unfold reread
      by_cases hdepth : limit ≤ depth
      · rw [if_pos hdepth, if_neg (by simp only [height]; omega)]
      · rw [if_neg hdepth]
        show (readOperands limit (depth + 1) _ [l.toElement]).result >>= _ = _
        by_cases hfit : depth + 1 + l.height ≤ limit
        · rw [result_readOperands_of_le (ihleft l rfl _ _) hfit rfl,
            if_pos (by simp only [height, operandHeight]; omega)]
          rfl
        · rw [result_readOperands_of_lt (ihleft l rfl _ _) hfit,
            if_neg (by simp only [height, operandHeight]; omega)]
          rfl
    | none, some r =>
      -- written, and so read, as if the zero had been there
      have hpair := result_readAt_pair op (l := .literal 0) (result_readAt_leaf rfl)
        (ihright r rfl) limit depth
      have hheight : height (.operation op (some (.literal 0)) (some r)) =
          height (.operation op none (some r)) := by
        have := r.height_pos
        simp only [height, operandHeight]
        omega
      unfold reread at hpair ⊢
      rw [hheight] at hpair
      exact hpair
    | some l, some r => exact result_readAt_pair op (ihleft l rfl) (ihright r rfl) limit depth

end Node

/-! ## Through the sink -/

/-- A dimension with its role counts one level more. -/
theorem Dimension.result_readAt_toElement (limit depth : Nat) (d : Dimension) :
    (Dimension.readAt limit depth d.toElement).result =
      if depth + d.height ≤ limit then .ok d.norm else .error (.nestingTooDeep limit) := by
  have hrole : (d.toElement.role "type").result = .ok d.role :=
    Element.result_role (by simp [toElement, Element.attribute?_eq])
  show (Outcome.ofExcept (.ok ()) >>= fun _ => if limit ≤ depth then _ else _).result = _
  have hpos := d.node.height_pos
  by_cases hlimit : limit ≤ depth
  · rw [if_pos hlimit, if_neg (by simp only [height]; omega)]
    rfl
  · rw [if_neg hlimit]
    show (d.toElement.role "type" >>= fun role =>
      Node.readAt limit (depth + 1) d.node.toElement >>= fun node =>
        pure (Dimension.mk role node)).result = _
    rw [Outcome.result_bind, hrole, Outcome.ok_bind, Outcome.result_bind, Node.result_readAt,
      Node.reread]
    unfold height
    rw [Nat.add_assoc]
    by_cases hfit : depth + (1 + d.node.height) ≤ limit
    · rw [if_pos hfit, if_pos hfit]
      rfl
    · rw [if_neg hfit, if_neg hfit]
      rfl

theorem Dimension.result_read_toElement (limit : Nat) (d : Dimension) :
    (Dimension.read limit d.toElement).result =
      if d.height ≤ limit then .ok d.norm else .error (.nestingTooDeep limit) := by
  unfold read
  rw [result_readAt_toElement, Nat.zero_add]

/-- What a reader with a limit makes of the first element that calls finish. -/
def Call.reread {α : Type} (read : Element → Outcome α) (cs : List Call) :
    Option (Except LayoutError α) :=
  (Call.firstRoot? cs).map fun e => (read e).result

theorem Element.reread_eq {α : Type} (read : Element → Outcome α) (e : Element) :
    Call.reread read e.calls = some (read e).result := by
  unfold Call.reread
  rw [Element.firstRoot?_calls, Option.map_some]

theorem Node.reread_of_calls (limit : Nat) (n : Node) :
    Call.reread (Node.read limit) n.calls = some (Node.reread limit 0 n) := by
  unfold Node.calls Node.read
  rw [Element.reread_eq, Node.result_readAt]

/-- **Markup brings every dimension back in normal form, or refuses it for its height.** -/
theorem reread_calls (limit : Nat) :
    (∀ n : Node, Call.reread (Node.read limit) n.calls =
      some (if n.height ≤ limit then .ok n.norm else .error (.nestingTooDeep limit))) ∧
    (∀ d : Dimension, Call.reread (Dimension.read limit) d.calls =
      some (if d.height ≤ limit then .ok d.norm else .error (.nestingTooDeep limit))) := by
  refine ⟨fun n => ?_, fun d => ?_⟩
  · rw [Node.reread_of_calls, Node.reread, Nat.zero_add]
  · unfold Call.reread Dimension.calls
    rw [Element.firstRoot?_calls, Option.map_some, Dimension.result_read_toElement]

end SkinLayout
