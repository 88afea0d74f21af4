import SkinLayout.Dimension.Evaluate
import SkinLayout.Proofs.Widget.Sizes
/-!
# What a dimension looks at

A dimension asks its own widget for its fields and for two sizes, and the widgets that its paths
lead to for the same; beyond that it sees fonts and images and nothing else of the tree.  So widgets
that are alike, in trees however different, give it the same value (`Node.sameValue`), as long
as its font metrics find the same fonts.
-/
namespace SkinLayout

/-- Two widgets that no dimension without paths and fonts can tell apart. -/
structure View.Alike (v v' : View) : Prop where
  widget : v'.widget = v.widget
  images : v'.tree.resources.images = v.tree.resources.images
  pixelSize : v'.pixelSize = v.pixelSize
  parentSize : v'.parentSize = v.parentSize

/-- A widget that is in both trees, with the same above it, is alike in both. -/
theorem Tree.WellFormed.alike {t t' : Tree} {id : WidgetId} {w : Widget} (h : t.WellFormed)
    (hresources : t'.resources = t.resources) (halign : t'.alignPixels = t.alignPixels)
    (hget : t.get? id = some w) (hsame : ∀ a, t.Above a id → t'.get? a = t.get? a) :
    View.Alike ⟨t, id, w⟩ ⟨t', id, w⟩ where
  widget := rfl
  images := congrArg _ hresources
  pixelSize := h.pixelSize_congr halign (congrArg _ hresources) hsame
  parentSize := h.baseSize_congr halign (congrArg _ hresources) hget hsame

/-- A path leads to widgets that are alike, or to none in either tree. -/
def View.AlikeAt (v v' : View) (path : Option String) : Prop :=
  Option.Rel View.Alike (v.target? path) (v'.target? path)

variable {v v' : View} {path : Option String}

namespace View

theorem Alike.name (h : v.Alike v') : v'.name = v.name := congrArg Widget.name h.widget

theorem Alike.property? (h : v.Alike v') (key : String) : v'.property? key = v.property? key := by
  rw [View.property?, View.property?, h.widget]

theorem Alike.font? (h : v.Alike v') (hfonts : v'.tree.resources.fonts = v.tree.resources.fonts) :
    v'.font? = v.font? := by
  rw [View.font?, View.font?, h.widget, hfonts]

theorem tree_of_target? {w : View} (h : v.target? path = some w) : w.tree = v.tree := by
  have hview : ∀ {id}, v.tree.view? id = some w → w.tree = v.tree := by
    intro id hw
    obtain ⟨_, -, rfl⟩ := Tree.view?_eq_some_iff.1 hw
    rfl
  cases path with
  | none => cases h; rfl
  | some p =>
    unfold target? at h
    by_cases hempty : p = ""
    · simp only [hempty, if_true] at h
      cases h
      rfl
    · simp only [hempty, if_false] at h
      obtain ⟨_, -, hw⟩ := Option.bind_eq_some_iff.1 h
      exact hview hw

theorem AlikeAt.cases (h : v.AlikeAt v' path) :
    (v.target? path = none ∧ v'.target? path = none) ∨
      ∃ w w', v.target? path = some w ∧ v'.target? path = some w' ∧ w.Alike w' := by
  unfold AlikeAt at h
  generalize v.target? path = o, v'.target? path = o' at h ⊢
  cases h with
  | none => exact .inl ⟨rfl, rfl⟩
  | some hw => exact .inr ⟨_, _, rfl, rfl, hw⟩

end View

/-! ## Leaves -/

namespace FontMetric

/-- Where the registered fonts are the same, a metric finds the same font. -/
theorem font?_congr (m : FontMetric) (hfonts : v'.tree.resources.fonts = v.tree.resources.fonts)
    (hpath : v.AlikeAt v' m.widget) : m.font? v' = m.font? v := by
  have htarget : (v'.target? m.widget).bind View.font? = (v.target? m.widget).bind View.font? := by
    rcases hpath.cases with ⟨hw, hw'⟩ | ⟨w, w', hw, hw', halike⟩
    · rw [hw, hw']
    · have htree := View.tree_of_target? hw
      have htree' := View.tree_of_target? hw'
      rw [hw, hw', Option.bind_some, Option.bind_some, halike.font?]
      rw [htree, htree', hfonts]
  unfold font?
  rw [htarget, hfonts]

theorem text?_congr (m : FontMetric) (hpath : v.AlikeAt v' m.widget) : m.text? v' = m.text? v := by
  have htarget : ((v'.target? m.widget).map fun w => w.widget.text) =
      (v.target? m.widget).map fun w => w.widget.text := by
    rcases hpath.cases with ⟨hw, hw'⟩ | ⟨w, w', hw, hw', halike⟩
    · rw [hw, hw']
    · rw [hw, hw', Option.map_some, Option.map_some, halike.widget]
  unfold text?
  rw [htarget]

theorem evaluate_congr (m : FontMetric) (hv : v.Alike v') (hfont : m.font? v' = m.font? v)
    (hpath : v.AlikeAt v' m.widget) : m.evaluate v' = m.evaluate v := by
  have hmeasured : m.measured v' = m.measured v := by
    funext f
    rw [measured, measured, m.text?_congr hpath]
  unfold evaluate
  rw [hfont, hmeasured, hv.name]

end FontMetric

/-- The path of a source; a named one has none. -/
def ImageSource.paths : ImageSource → List (Option String)
  | .named _ => []
  | .property widget _ => [widget]

theorem ImageSource.name?_congr (s : ImageSource) (hpath : ∀ p ∈ s.paths, v.AlikeAt v' p) :
    s.name? v' = s.name? v := by
  cases s with
  | named name => rfl
  | property widget key =>
    unfold name?
    rcases (hpath widget (List.mem_singleton_self _)).cases with
      ⟨hw, hw'⟩ | ⟨w, w', hw, hw', halike⟩
    · simp only [hw, hw']
    · simp only [hw, hw', Option.bind_some, halike.property?]

theorem ImageMetric.evaluate_congr (m : ImageMetric) (hv : v.Alike v')
    (hpath : ∀ p ∈ m.source.paths, v.AlikeAt v' p) : m.evaluate v' = m.evaluate v := by
  unfold evaluate
  rw [m.source.name?_congr hpath, hv.images]

namespace WidgetMetric

theorem measured_congr (role : Role) {w w' : View} (h : w.Alike w') :
    measured role w' = measured role w := by
  unfold measured
  rw [h.widget, h.pixelSize, h.parentSize, h.name]

theorem evaluate_congr (m : WidgetMetric) (hv : v.Alike v') (hpath : v.AlikeAt v' m.widget) :
    m.evaluate v' = m.evaluate v := by
  unfold evaluate
  rcases hpath.cases with ⟨hw, hw'⟩ | ⟨w, w', hw, hw', halike⟩
  · simp only [hw, hw', hv.name]
  · simp only [hw, hw', measured_congr m.role halike]

end WidgetMetric

namespace PropertyMetric

theorem valueOn_congr (m : PropertyMetric) {w w' : View} (h : w.Alike w') :
    m.valueOn w' = m.valueOn w := by
  have hlength : ∀ key p axis, lengthValue key p axis w' = lengthValue key p axis w := by
    intro key p axis
    unfold lengthValue
    rw [h.pixelSize]
  unfold valueOn
  rw [h.property?, h.name]
  simp only [hlength]

theorem evaluate_congr (m : PropertyMetric) (hv : v.Alike v') (hpath : v.AlikeAt v' m.widget) :
    m.evaluate v' = m.evaluate v := by
  unfold evaluate
  rcases hpath.cases with ⟨hw, hw'⟩ | ⟨w, w', hw, hw', halike⟩
  · simp only [hw, hw', hv.name]
  · simp only [hw, hw', m.valueOn_congr halike]

end PropertyMetric

/-! ## Trees -/

namespace Node

mutual

/-- The paths to widgets in a node. -/
def paths : Node → List (Option String)
  | .font m => [m.widget]
  | .image m => m.source.paths
  | .widget m => [m.widget]
  | .property m => [m.widget]
  | .operation _ left right => operandPaths left ++ operandPaths right
  | _ => []

def operandPaths : Option Node → List (Option String)
  | none => []
  | some n => n.paths

end

mutual

/-- The font metrics in a node. -/
def fontMetrics : Node → List FontMetric
  | .font m => [m]
  | .operation _ left right => operandFontMetrics left ++ operandFontMetrics right
  | _ => []

def operandFontMetrics : Option Node → List FontMetric
  | none => []
  | some n => n.fontMetrics

end

/-- Two widgets give a node one value, by themselves and with any rectangle in their place. -/
structure SameValue (n : Node) (v v' : View) : Prop where
  evaluate : n.evaluate v' = n.evaluate v
  evaluateIn : ∀ r, n.evaluateIn v' r = n.evaluateIn v r

/-- **Alike widgets give a node the same value**, if its paths lead to alike widgets and its font
metrics to the same fonts. -/
theorem sameValue (hv : v.Alike v') (n : Node) : (∀ p ∈ n.paths, v.AlikeAt v' p) →
    (∀ m ∈ n.fontMetrics, m.font? v' = m.font? v) → n.SameValue v v' := by
  induction n using Node.induction with
  | literal x => intro _ _; exact ⟨rfl, fun _ => rfl⟩
  | unified u role =>
    intro _ _
    have hvalue : (Node.unified u role).evaluate v' = (Node.unified u role).evaluate v := by
      rw [Node.evaluate, Node.evaluate, hv.pixelSize]
    exact ⟨hvalue, fun _ => rfl⟩
  | font m =>
    intro hpath hfont
    have hself := hfont m (List.mem_singleton_self _)
    have hvalue : (Node.font m).evaluate v' = (Node.font m).evaluate v := by
      rw [Node.evaluate, Node.evaluate,
        m.evaluate_congr hv hself (hpath _ (List.mem_singleton_self _))]
    exact ⟨hvalue, fun _ => hvalue⟩
  | image m =>
    intro hpath _
    have hvalue : (Node.image m).evaluate v' = (Node.image m).evaluate v := by
      rw [Node.evaluate, Node.evaluate, m.evaluate_congr hv hpath]
    exact ⟨hvalue, fun _ => hvalue⟩
  | widget m =>
    intro hpath _
    have hvalue : (Node.widget m).evaluate v' = (Node.widget m).evaluate v := by
      rw [Node.evaluate, Node.evaluate, m.evaluate_congr hv (hpath _ (List.mem_singleton_self _))]
    exact ⟨hvalue, fun _ => hvalue⟩
  | property m =>
    intro hpath _
    have hvalue : (Node.property m).evaluate v' = (Node.property m).evaluate v := by
      rw [Node.evaluate, Node.evaluate, m.evaluate_congr hv (hpath _ (List.mem_singleton_self _))]
    exact ⟨hvalue, fun _ => hvalue⟩
  | operation op left right ihleft ihright =>
    intro hpath hfont
    have hoperand : ∀ o : Option Node, (∀ n, o = some n → (∀ p ∈ n.paths, v.AlikeAt v' p) →
          (∀ m ∈ n.fontMetrics, m.font? v' = m.font? v) → n.SameValue v v') →
        (∀ p ∈ operandPaths o, v.AlikeAt v' p) →
        (∀ m ∈ operandFontMetrics o, m.font? v' = m.font? v) →
        evaluateOperand v' o = evaluateOperand v o ∧
          ∀ r, evaluateOperandIn v' r o = evaluateOperandIn v r o := by
      intro o ih hpath hfont
      cases o with
      | none => exact ⟨rfl, fun _ => rfl⟩
      | some n =>
        have hn := ih n rfl hpath hfont
        exact ⟨hn.evaluate, hn.evaluateIn⟩
    obtain ⟨hleft, hleftIn⟩ := hoperand left ihleft
      (fun p hp => hpath p (List.mem_append_left _ hp))
      (fun m hm => hfont m (List.mem_append_left _ hm))
    obtain ⟨hright, hrightIn⟩ := hoperand right ihright
      (fun p hp => hpath p (List.mem_append_right _ hp))
      (fun m hm => hfont m (List.mem_append_right _ hm))
    constructor
    · rw [Node.evaluate, Node.evaluate, hleft, hright]
    · intro r
      rw [Node.evaluateIn, Node.evaluateIn, hleftIn, hrightIn]

theorem widget_mem_paths (n : Node) : ∀ m ∈ n.fontMetrics, m.widget ∈ n.paths := by
  induction n using Node.induction with
  | font m =>
    intro m' hm'
    rw [List.mem_singleton.1 hm']
    exact List.mem_singleton_self _
  | operation op left right ihleft ihright =>
    have hleft : ∀ m ∈ operandFontMetrics left, m.widget ∈ operandPaths left :=
      operand_cases left (fun _ hm => (by cases hm)) ihleft
    have hright : ∀ m ∈ operandFontMetrics right, m.widget ∈ operandPaths right :=
      operand_cases right (fun _ hm => (by cases hm)) ihright
    intro m hm
    rcases List.mem_append.1 hm with hm | hm
    · exact List.mem_append_left _ (hleft m hm)
    · exact List.mem_append_right _ (hright m hm)
  | literal x => intro m hm; cases hm
  | unified u role => intro m hm; cases hm
  | image m => intro m hm; cases hm
  | widget m => intro m hm; cases hm
  | property m => intro m hm; cases hm

end Node

/-- Two widgets give a dimension one value, by themselves and with any rectangle in their place. -/
structure Dimension.SameValue (d : Dimension) (v v' : View) : Prop where
  evaluate : d.evaluate v' = d.evaluate v
  evaluateIn : ∀ r, d.evaluateIn v' r = d.evaluateIn v r

theorem Node.SameValue.dimension {d : Dimension} (h : d.node.SameValue v v') : d.SameValue v v' :=
  ⟨h.evaluate, h.evaluateIn⟩

namespace Area

def paths (a : Area) : List (Option String) := a.dimensions.flatMap fun d => d.node.paths

def fontMetrics (a : Area) : List FontMetric := a.dimensions.flatMap fun d => d.node.fontMetrics

theorem widget_mem_paths (a : Area) {m : FontMetric} (hm : m ∈ a.fontMetrics) :
    m.widget ∈ a.paths := by
  obtain ⟨d, hd, hm⟩ := List.mem_flatMap.1 hm
  exact List.mem_flatMap.2 ⟨d, hd, d.node.widget_mem_paths m hm⟩

theorem propertyRect_congr (a : Area) (hv : v.Alike v') : a.propertyRect v' = a.propertyRect v := by
  unfold propertyRect
  rw [hv.name]
  simp only [hv.property?]

theorem combined_congr (a : Area) {f g : Dimension → Outcome Float32}
    (h : ∀ d ∈ a.dimensions, f d = g d) : a.combined f = a.combined g := by
  unfold combined
  rw [h a.left (by simp [dimensions]), h a.top (by simp [dimensions]),
    h a.right (by simp [dimensions]), h a.bottom (by simp [dimensions])]

/-- Two widgets give an area one rectangle, by themselves and in any container. -/
structure SameRect (a : Area) (v v' : View) : Prop where
  pixelRect : a.pixelRect v' = a.pixelRect v
  pixelRectIn : ∀ r, a.pixelRectIn v' r = a.pixelRectIn v r

/-- **Alike widgets give an area the same rectangle**, if its paths lead to alike widgets and its
font metrics to the same fonts. -/
theorem sameRect (a : Area) (hv : v.Alike v') (hpath : ∀ p ∈ a.paths, v.AlikeAt v' p)
    (hfont : ∀ m ∈ a.fontMetrics, m.font? v' = m.font? v) : a.SameRect v v' := by
  have hsame : ∀ d ∈ a.dimensions, d.SameValue v v' := by
    intro d hd
    have hpathd : ∀ p ∈ d.node.paths, v.AlikeAt v' p := fun p hp =>
      hpath p (List.mem_flatMap.2 ⟨d, hd, hp⟩)
    have hfontd : ∀ m ∈ d.node.fontMetrics, m.font? v' = m.font? v := fun m hm =>
      hfont m (List.mem_flatMap.2 ⟨d, hd, hm⟩)
    exact (d.node.sameValue hv hpathd hfontd).dimension
  constructor
  · have hcombined := a.combined_congr fun d hd => (hsame d hd).evaluate
    unfold Area.pixelRect
    rw [a.propertyRect_congr hv, hv.pixelSize]
    simp only [hcombined]
  · intro r
    have hcombined := a.combined_congr fun d hd => (hsame d hd).evaluateIn r
    unfold Area.pixelRectIn
    rw [a.propertyRect_congr hv]
    simp only [hcombined]

end Area

/-! ## No paths -/

def IsOwnPath (path : Option String) : Prop := path = none ∨ path = some ""

instance (path : Option String) : Decidable (IsOwnPath path) :=
  inferInstanceAs (Decidable (_ ∨ _))

theorem View.target?_of_isOwnPath (v : View) (h : IsOwnPath path) : v.target? path = some v := by
  rcases h with rfl | rfl <;> rfl

theorem View.Alike.alikeAt (hv : v.Alike v') (h : IsOwnPath path) : v.AlikeAt v' path := by
  rw [View.AlikeAt, v.target?_of_isOwnPath h, v'.target?_of_isOwnPath h]
  exact .some hv

/-- Every path in the area is absent or empty: it reads its own widget only. -/
def Area.OwnOnly (a : Area) : Prop := ∀ p ∈ a.paths, IsOwnPath p

instance (a : Area) : Decidable a.OwnOnly := inferInstanceAs (Decidable (∀ p ∈ a.paths, _))

/-- **An area that reads its own widget only** cannot tell alike widgets apart, but by the fonts. -/
theorem Area.OwnOnly.pixelRect_congr {a : Area} (ha : a.OwnOnly) (hv : v.Alike v')
    (hfont : ∀ m ∈ a.fontMetrics, m.font? v' = m.font? v) : a.pixelRect v' = a.pixelRect v :=
  (a.sameRect hv (fun p hp => hv.alikeAt (ha p hp)) hfont).pixelRect

theorem Area.OwnOnly.font?_congr {a : Area} (ha : a.OwnOnly) (hv : v.Alike v')
    (hfonts : v'.tree.resources.fonts = v.tree.resources.fonts) {m : FontMetric}
    (hm : m ∈ a.fontMetrics) : m.font? v' = m.font? v :=
  m.font?_congr hfonts (hv.alikeAt (ha _ (a.widget_mem_paths hm)))

end SkinLayout
