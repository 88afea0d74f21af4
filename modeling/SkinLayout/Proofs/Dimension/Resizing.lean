import SkinLayout.Dimension.FontUse
import SkinLayout.Proofs.Dimension.Locality
/-!
# A font changes size

A new point size changes the metrics of one font.  No widget, path or size moves, and a font metric
finds the font it found before, at most rescaled.  So a dimension that reads another font, or none,
keeps its value (`Node.sameValue_resized`, `Area.sameRect_resized`).
-/
namespace SkinLayout

/-! ## Reading a font -/

theorem Node.readsFont_eq (v : View) (font : String) (n : Node) :
    n.readsFont v font = n.fontMetrics.any fun m => m.readsFont v font := by
  induction n using Node.induction with
  | font m => simp [readsFont, fontMetrics]
  | operation op left right ihleft ihright =>
    have hleft : operandReadsFont v font left =
        (operandFontMetrics left).any fun m => m.readsFont v font :=
      operand_cases left rfl ihleft
    have hright : operandReadsFont v font right =
        (operandFontMetrics right).any fun m => m.readsFont v font :=
      operand_cases right rfl ihright
    rw [readsFont, fontMetrics, List.any_append, hleft, hright]
  | literal x => rfl
  | unified u role => rfl
  | image m => rfl
  | widget m => rfl
  | property m => rfl

theorem Area.readsFont_eq (v : View) (font : String) (a : Area) :
    a.readsFont v font = a.fontMetrics.any fun m => m.readsFont v font := by
  unfold readsFont fontMetrics
  rw [List.any_flatMap]
  simp only [Dimension.readsFont, Node.readsFont_eq]

variable (font : String) (size : Float32)

/-! ## What does not move -/

namespace Tree

theorem pixelSizeWith?_setPointSize (t : Tree) : ∀ (n : Nat) (id : WidgetId),
    (t.setPointSize font size).pixelSizeWith? n id = t.pixelSizeWith? n id
  | 0, _ => rfl
  | n + 1, id => by
    have hget : (t.setPointSize font size).get? id = t.get? id := rfl
    rw [pixelSizeWith?, pixelSizeWith?, hget]
    simp only [t.pixelSizeWith?_setPointSize n]
    rfl

theorem pixelSize_setPointSize (t : Tree) (id : WidgetId) :
    (t.setPointSize font size).pixelSize id = t.pixelSize id := by
  have hsize : (t.setPointSize font size).pixelSize? id = t.pixelSize? id :=
    t.pixelSizeWith?_setPointSize font size _ id
  rw [pixelSize, pixelSize, hsize]

theorem descend_setPointSize (t : Tree) : ∀ (names : List String) (id : WidgetId),
    (t.setPointSize font size).descend id names = t.descend id names
  | [], _ => rfl
  | name :: names, id => by
    have hchild : (t.setPointSize font size).childNamed id name = t.childNamed id name := rfl
    rw [descend, descend, hchild]
    cases t.childNamed id name with
    | none => rfl
    | some c => exact t.descend_setPointSize names c

end Tree

namespace View

/-- The widget once a font has another point size. -/
def resized (v : View) : View := ⟨v.tree.setPointSize font size, v.id, v.widget⟩

theorem view?_setPointSize (t : Tree) (id : WidgetId) :
    (t.setPointSize font size).view? id = (t.view? id).map (resized font size) := by
  show (t.get? id).map _ = ((t.get? id).map _).map _
  rw [Option.map_map]
  rfl

theorem alike_resized (v : View) : v.Alike (v.resized font size) where
  widget := rfl
  images := rfl
  pixelSize := v.tree.pixelSize_setPointSize font size v.id
  parentSize := by
    have hparent : (v.resized font size).widget.parent = v.widget.parent := rfl
    rw [parentSize, parentSize, hparent]
    cases v.widget.parent with
    | none => rfl
    | some p => exact v.tree.pixelSize_setPointSize font size p

theorem target?_resized (v : View) (path : Option String) :
    (v.resized font size).target? path = (v.target? path).map (resized font size) := by
  cases path with
  | none => rfl
  | some path =>
    unfold target?
    simp only
    by_cases hempty : path = ""
    · rw [if_pos hempty, if_pos hempty]; rfl
    · rw [if_neg hempty, if_neg hempty, child?, child?]
      show ((v.tree.setPointSize font size).descend v.id (pathNames path)).bind _ =
        ((v.tree.descend v.id (pathNames path)).bind _).map _
      rw [Tree.descend_setPointSize, Option.map_bind]
      exact congrArg _ (funext fun id => view?_setPointSize font size v.tree id)

theorem alikeAt_resized (v : View) (path : Option String) :
    v.AlikeAt (v.resized font size) path := by
  unfold AlikeAt
  rw [target?_resized]
  cases v.target? path with
  | none => exact .none
  | some w => exact .some (w.alike_resized font size)

end View

/-! ## What becomes of the fonts -/

/-- A font under its name, rescaled if it is the one that changed. -/
def rescaled (f : String × Font) : String × Font :=
  (f.1, if f.1 = font then f.2.withPointSize size else f.2)

theorem Resources.get?_setPointSize (r : Resources) (name : String) :
    ((r.setPointSize font size).fonts.get? name).map (fun f => (name, f)) =
      ((r.fonts.get? name).map fun f => (name, f)).map (rescaled font size) := by
  show ((r.fonts.modify font _).get? name).map _ = _
  rw [Table.get?_modify, Option.map_map]
  by_cases hname : name = font
  · rw [if_pos hname, Option.map_map]
    refine Option.map_congr fun f _ => ?_
    simp [rescaled, hname]
  · rw [if_neg hname]
    refine Option.map_congr fun f _ => ?_
    simp [rescaled, hname]

theorem View.font?_eq (v : View) : v.font? =
    v.widget.font.bind fun name => (v.tree.resources.fonts.get? name).map fun f => (name, f) := by
  unfold font?
  cases v.widget.font with
  | none => rfl
  | some name =>
    show (v.tree.resources.fonts.get? name).bind _ = (v.tree.resources.fonts.get? name).map _
    cases v.tree.resources.fonts.get? name <;> rfl

theorem View.font?_resized (v : View) :
    (v.resized font size).font? = v.font?.map (rescaled font size) := by
  rw [font?_eq, font?_eq, Option.map_bind]
  show v.widget.font.bind _ = v.widget.font.bind _
  exact congrArg _ (funext fun name => Resources.get?_setPointSize font size _ name)

namespace FontMetric

theorem font?_resized (m : FontMetric) (v : View) :
    m.font? (v.resized font size) = (m.font? v).map (rescaled font size) := by
  unfold font?
  cases m.font.filter fun name => name ≠ "" with
  | some name => exact Resources.get?_setPointSize font size _ name
  | none =>
    show ((v.resized font size).target? m.widget).bind View.font? =
      ((v.target? m.widget).bind View.font?).map _
    rw [View.target?_resized, Option.map_bind]
    cases v.target? m.widget with
    | none => rfl
    | some w => exact w.font?_resized font size

theorem readsFont_resized (m : FontMetric) (v : View) (name : String) :
    m.readsFont (v.resized font size) name = m.readsFont v name := by
  unfold readsFont
  rw [font?_resized, Option.any_map]
  rfl

theorem font?_resized_of_not_readsFont {m : FontMetric} {v : View}
    (h : m.readsFont v font = false) : m.font? (v.resized font size) = m.font? v := by
  rw [font?_resized]
  unfold readsFont at h
  cases hfont : m.font? v with
  | none => rfl
  | some f =>
    rw [hfont, Option.any_some, beq_eq_false_iff_ne] at h
    rw [Option.map_some, rescaled, if_neg h]

theorem font?_resized_of_mem {l : List FontMetric} {v : View}
    (h : (l.any fun m => m.readsFont v font) = false) {m : FontMetric} (hm : m ∈ l) :
    m.font? (v.resized font size) = m.font? v := by
  have hreads : ¬ m.readsFont v font = true := List.any_eq_false.1 h m hm
  exact font?_resized_of_not_readsFont font size (Bool.eq_false_iff.2 hreads)

end FontMetric

/-! ## What becomes of values -/

namespace Node

theorem readsFont_resized (n : Node) (v : View) (name : String) :
    n.readsFont (v.resized font size) name = n.readsFont v name := by
  rw [readsFont_eq, readsFont_eq]
  simp only [FontMetric.readsFont_resized]

/-- **A node that does not read a font keeps its value** when the font changes size. -/
theorem sameValue_resized {n : Node} {v : View} (h : n.readsFont v font = false) :
    n.SameValue v (v.resized font size) := by
  rw [readsFont_eq] at h
  exact n.sameValue (v.alike_resized font size) (fun p _ => v.alikeAt_resized font size p)
    fun m hm => FontMetric.font?_resized_of_mem font size h hm

end Node

namespace Area

theorem readsFont_resized (a : Area) (v : View) (name : String) :
    a.readsFont (v.resized font size) name = a.readsFont v name := by
  rw [readsFont_eq, readsFont_eq]
  simp only [FontMetric.readsFont_resized]

/-- **An area that does not read a font is where it was** when the font changes size. -/
theorem sameRect_resized {a : Area} {v : View} (h : a.readsFont v font = false) :
    a.SameRect v (v.resized font size) := by
  rw [readsFont_eq] at h
  exact a.sameRect (v.alike_resized font size) (fun p _ => v.alikeAt_resized font size p)
    fun m hm => FontMetric.font?_resized_of_mem font size h hm

theorem pixelRect_resized {a : Area} {v : View} (h : a.readsFont v font = false) :
    a.pixelRect (v.resized font size) = a.pixelRect v :=
  (sameRect_resized font size h).pixelRect

end Area

end SkinLayout
