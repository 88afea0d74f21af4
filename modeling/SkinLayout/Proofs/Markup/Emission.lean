import SkinLayout.Dimension.Write
import SkinLayout.Proofs.Markup.Collect
/-!
# What a writer does to a builder

A node, a dimension or an area is written call by call, an attribute now and then left out, operands
and sides between the attributes and the end of their tag (`Node.emitted`).  These are the calls of
one element, so whatever is open around them that element is added and nothing else
(`Builder.writers_add_one`); and no tag of it has two attributes of one key.
-/
namespace SkinLayout

/-! ## Calls one by one -/

/-- An attribute that is set only if there is a value. -/
def Call.setsIfAny (key : String) : Option String → List Call
  | none => []
  | some value => [.sets key value]

namespace FontMetric

def emitted (m : FontMetric) : List Call :=
  [.opens "FontDim"] ++ Call.setsIfAny "widget" m.widget ++ Call.setsIfAny "font" m.font ++
    Call.setsIfAny "string" m.text ++
    (if m.padding == 0 then [] else [.sets "padding" (Single.toText m.padding)]) ++
    [.sets "type" m.measure.name, .closes]

end FontMetric

namespace ImageMetric

def emitted (m : ImageMetric) : List Call :=
  (match m.source with
    | .named name => [.opens "ImageDim", .sets "name" name]
    | .property widget key =>
      [.opens "ImagePropertyDim"] ++ Call.setsIfAny "widget" widget ++ [.sets "name" key]) ++
    [.sets "dimension" m.measure.name, .closes]

end ImageMetric

namespace WidgetMetric

def emitted (m : WidgetMetric) : List Call :=
  [.opens "WidgetDim"] ++ Call.setsIfAny "widget" m.widget ++
    [.sets "dimension" m.role.name, .closes]

end WidgetMetric

namespace PropertyMetric

def emitted (m : PropertyMetric) : List Call :=
  [.opens "PropertyDim"] ++ Call.setsIfAny "widget" m.widget ++ [.sets "name" m.property] ++
    Call.setsIfAny "type" (m.axis.map fun a => a.role.name) ++ [.closes]

end PropertyMetric

namespace Node

def emittedLiteral (x : Float32) : List Call :=
  [.opens "LiteralDim", .sets "value" (Single.toText x), .closes]

/-- The calls of a node in the order in which they are made; a lone right operand comes after a zero
that stands for the left one. -/
def emitted : Node → List Call
  | .literal x => emittedLiteral x
  | .unified u role =>
    [.opens "UnifiedDim", .sets "scale" (Single.toText u.scale),
      .sets "offset" (Single.toText u.offset), .sets "type" role.name, .closes]
  | .font m => m.emitted
  | .image m => m.emitted
  | .widget m => m.emitted
  | .property m => m.emitted
  | .operation op none none => [.opens "OperatorDim", .sets "op" op.name, .closes]
  | .operation op (some l) none =>
    [.opens "OperatorDim", .sets "op" op.name] ++ l.emitted ++ [.closes]
  | .operation op none (some r) =>
    [.opens "OperatorDim", .sets "op" op.name] ++ emittedLiteral 0 ++ r.emitted ++ [.closes]
  | .operation op (some l) (some r) =>
    [.opens "OperatorDim", .sets "op" op.name] ++ l.emitted ++ r.emitted ++ [.closes]
termination_by structural n => n

end Node

def Dimension.emitted (d : Dimension) : List Call :=
  [.opens "Dim", .sets "type" d.role.name] ++ d.node.emitted ++ [.closes]

def Area.emitted (a : Area) : List Call :=
  [.opens "Area"] ++
    (match a.property with
    | none => []
    | some name => [.opens "AreaProperty", .sets "name" name, .closes]) ++
    a.dimensions.flatMap Dimension.emitted ++ [.closes]

/-! ## They are the calls of an element -/

theorem map_optionalAttribute (key : String) (o : Option String) :
    (optionalAttribute key o).map (fun a => Call.sets a.1 a.2) = Call.setsIfAny key o := by
  cases o <;> rfl

theorem map_paddingAttribute (x : Float32) :
    (paddingAttribute x).map (fun a => Call.sets a.1 a.2) =
      if x == 0 then [] else [.sets "padding" (Single.toText x)] := by
  unfold paddingAttribute
  split <;> rfl

/-- The calls of an element, with its attributes and its children apart. -/
theorem Element.calls_mk (name : String) (attributes : List (String × String))
    (children : List Element) : Element.calls ⟨name, attributes, children⟩ =
      [.opens name] ++ attributes.map (fun a => Call.sets a.1 a.2) ++ Element.callsOfAll children ++
        [.closes] := by
  rw [Element.calls, List.append_assoc, List.append_assoc]
  rfl

theorem FontMetric.calls_toElement (m : FontMetric) : m.toElement.calls = m.emitted := by
  simp only [toElement, Element.calls_mk, List.map_append, map_optionalAttribute,
    map_paddingAttribute, Element.callsOfAll, emitted, List.append_assoc]
  rfl

theorem ImageMetric.calls_toElement (m : ImageMetric) : m.toElement.calls = m.emitted := by
  obtain ⟨source, measure⟩ := m
  cases source with
  | named name => rfl
  | property widget key => cases widget <;> rfl

theorem WidgetMetric.calls_toElement (m : WidgetMetric) : m.toElement.calls = m.emitted := by
  obtain ⟨widget, role⟩ := m
  cases widget <;> rfl

theorem PropertyMetric.calls_toElement (m : PropertyMetric) : m.toElement.calls = m.emitted := by
  obtain ⟨widget, property, axis⟩ := m
  cases widget <;> cases axis <;> rfl

/-- **A node is written by the calls of an element.** -/
theorem Node.calls_eq (n : Node) : n.calls = n.emitted := by
  unfold calls
  induction n using Node.induction with
  | literal x => rfl
  | unified u role => rfl
  | font m => exact m.calls_toElement
  | image m => exact m.calls_toElement
  | widget m => exact m.calls_toElement
  | property m => exact m.calls_toElement
  | operation op left right ihleft ihright =>
    cases left using operand_cases with
    | hnone =>
      cases right using operand_cases with
      | hnone => rfl
      | hsome r hr =>
        rw [toElement, Element.calls_mk, Element.callsOfAll, Element.callsOfAll, ihright r hr,
          Element.callsOfAll, emitted]
        simp [emittedLiteral, literalElement, Element.calls_mk, Element.callsOfAll]
    | hsome l hl =>
      cases right using operand_cases with
      | hnone =>
        rw [toElement, Element.calls_mk, Element.callsOfAll, ihleft l hl, emitted]
        simp [Element.callsOfAll]
      | hsome r hr =>
        rw [toElement, Element.calls_mk, Element.callsOfAll, Element.callsOfAll, ihleft l hl,
          ihright r hr, emitted]
        simp [Element.callsOfAll]

theorem Dimension.calls_eq (d : Dimension) : d.calls = d.emitted := by
  have hnode : d.node.toElement.calls = d.node.emitted := d.node.calls_eq
  unfold calls toElement emitted
  rw [Element.calls_mk, Element.callsOfAll, hnode]
  simp [Element.callsOfAll]

theorem Area.callsOfAll_dimensions (ds : List Dimension) :
    Element.callsOfAll (ds.map Dimension.toElement) = ds.flatMap Dimension.emitted := by
  induction ds with
  | nil => rfl
  | cons d ds ih =>
    rw [List.map_cons, Element.callsOfAll, ih, List.flatMap_cons]
    exact congrArg (· ++ _) d.calls_eq

theorem Area.calls_eq (a : Area) : a.calls = a.emitted := by
  unfold calls toElement emitted
  rw [← callsOfAll_dimensions, Element.calls_mk]
  cases a.property with
  | none => rfl
  | some name => rfl

/-! ## No key twice -/

mutual

/-- No tag of the element has two attributes of one key. -/
def Element.KeysApart : Element → Prop
  | ⟨_, attributes, children⟩ => (attributes.map Prod.fst).Nodup ∧ Element.KeysApartAll children

def Element.KeysApartAll : List Element → Prop
  | [] => True
  | e :: es => e.KeysApart ∧ Element.KeysApartAll es

end

theorem keys_optionalAttribute (key : String) (o : Option String) :
    ((optionalAttribute key o).map Prod.fst).Sublist [key] := by
  cases o with
  | none => exact List.nil_sublist _
  | some value => exact List.Sublist.refl _

theorem keys_paddingAttribute (x : Float32) :
    ((paddingAttribute x).map Prod.fst).Sublist ["padding"] := by
  unfold paddingAttribute
  split
  · exact List.nil_sublist _
  · exact List.Sublist.refl _

/-- A tag without children whose keys are among some different ones, in their order. -/
theorem Element.keysApart_of_sublist (keys : List String) (hkeys : keys.Nodup) {name : String}
    {attributes : List (String × String)} (hsub : (attributes.map Prod.fst).Sublist keys) :
    Element.KeysApart ⟨name, attributes, []⟩ := by
  rw [KeysApart, KeysApartAll]
  exact ⟨hkeys.sublist hsub, trivial⟩

theorem Element.keysApart_of_one (name key value : String) {children : List Element}
    (h : Element.KeysApartAll children) : Element.KeysApart ⟨name, [(key, value)], children⟩ := by
  rw [KeysApart]
  exact ⟨List.nodup_cons.2 ⟨List.not_mem_nil, List.nodup_nil⟩, h⟩

theorem FontMetric.keysApart (m : FontMetric) : m.toElement.KeysApart := by
  have hsub := ((((keys_optionalAttribute "widget" m.widget).append
    (keys_optionalAttribute "font" m.font)).append
      (keys_optionalAttribute "string" m.text)).append
        (keys_paddingAttribute m.padding)).append (List.Sublist.refl ["type"])
  refine Element.keysApart_of_sublist ["widget", "font", "string", "padding", "type"]
    (by decide) ?_
  simp only [List.map_append]
  exact hsub

theorem ImageMetric.keysApart (m : ImageMetric) : m.toElement.KeysApart := by
  obtain ⟨source, measure⟩ := m
  cases source with
  | named name =>
    exact Element.keysApart_of_sublist ["name", "dimension"] (by decide) (List.Sublist.refl _)
  | property widget key =>
    have hsub := (keys_optionalAttribute "widget" widget).append
      (List.Sublist.refl ["name", "dimension"])
    refine Element.keysApart_of_sublist ["widget", "name", "dimension"] (by decide) ?_
    rw [List.map_append]
    exact hsub

theorem WidgetMetric.keysApart (m : WidgetMetric) : m.toElement.KeysApart := by
  have hsub := (keys_optionalAttribute "widget" m.widget).append (List.Sublist.refl ["dimension"])
  refine Element.keysApart_of_sublist ["widget", "dimension"] (by decide) ?_
  rw [List.map_append]
  exact hsub

theorem PropertyMetric.keysApart (m : PropertyMetric) : m.toElement.KeysApart := by
  have hsub := ((keys_optionalAttribute "widget" m.widget).append
    (List.Sublist.refl ["name"])).append
      (keys_optionalAttribute "type" (m.axis.map fun a => a.role.name))
  refine Element.keysApart_of_sublist ["widget", "name", "type"] (by decide) ?_
  simp only [List.map_append]
  exact hsub

theorem Node.keysApart_literalElement (x : Float32) : (literalElement x).KeysApart :=
  Element.keysApart_of_one _ _ _ trivial

theorem Node.keysApart (n : Node) : n.toElement.KeysApart := by
  induction n using Node.induction with
  | literal x => exact keysApart_literalElement x
  | unified u role =>
    exact Element.keysApart_of_sublist ["scale", "offset", "type"] (by decide)
      (List.Sublist.refl _)
  | font m => exact m.keysApart
  | image m => exact m.keysApart
  | widget m => exact m.keysApart
  | property m => exact m.keysApart
  | operation op left right ihleft ihright =>
    cases left using operand_cases with
    | hnone =>
      cases right using operand_cases with
      | hnone => exact Element.keysApart_of_one _ _ _ trivial
      | hsome r hr =>
        exact Element.keysApart_of_one _ _ _ ⟨keysApart_literalElement 0, ihright r hr, trivial⟩
    | hsome l hl =>
      cases right using operand_cases with
      | hnone => exact Element.keysApart_of_one _ _ _ ⟨ihleft l hl, trivial⟩
      | hsome r hr => exact Element.keysApart_of_one _ _ _ ⟨ihleft l hl, ihright r hr, trivial⟩

theorem Dimension.keysApart (d : Dimension) : d.toElement.KeysApart :=
  Element.keysApart_of_one _ _ _ ⟨d.node.keysApart, trivial⟩

theorem Area.keysApartAll_dimensions (ds : List Dimension) :
    Element.KeysApartAll (ds.map Dimension.toElement) := by
  induction ds with
  | nil => trivial
  | cons d ds ih => exact ⟨d.keysApart, ih⟩

theorem Area.keysApart (a : Area) : a.toElement.KeysApart := by
  rw [toElement, Element.KeysApart]
  refine ⟨List.nodup_nil, ?_⟩
  cases a.property with
  | none => exact keysApartAll_dimensions _
  | some name => exact ⟨Element.keysApart_of_one _ _ _ trivial, keysApartAll_dimensions _⟩

/-! ## What a builder gets -/

/-- **A writer adds one element**, in silence, to whatever a builder has open or finished: an
element adds itself, and a node, a dimension or an area, written call by call, an element whose
tags have no key twice. -/
theorem Builder.writers_add_one (b : Builder) :
    (∀ e : Element, b.run e.calls = pure (b.push e)) ∧
      (∀ n : Node, n.calls = n.emitted ∧ b.run n.calls = pure (b.push n.toElement) ∧
        n.toElement.KeysApart) ∧
      (∀ d : Dimension, d.calls = d.emitted ∧ b.run d.calls = pure (b.push d.toElement) ∧
        d.toElement.KeysApart) ∧
      ∀ a : Area, a.calls = a.emitted ∧ b.run a.calls = pure (b.push a.toElement) ∧
        a.toElement.KeysApart :=
  ⟨fun e => run_calls e b, fun n => ⟨n.calls_eq, run_calls _ b, n.keysApart⟩,
    fun d => ⟨d.calls_eq, run_calls _ b, d.keysApart⟩,
    fun a => ⟨a.calls_eq, run_calls _ b, a.keysApart⟩⟩

end SkinLayout
