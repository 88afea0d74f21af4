import SkinLayout.Proofs.Dimension.Locality
import SkinLayout.Proofs.Widget.Building
import SkinLayout.Proofs.Widget.Places
/-!
# How far an edit is seen

A dimension looks down paths from its widget, and up from wherever they lead.  So it sees widgets
above its own and below it and no others (`WellFormed.alikeAt`), and those below only if a path has a
name in it.  An edit of a widget is not seen beside it, and from above it through paths alone
(`Built.edit_unseen`).
-/
namespace SkinLayout

/-! ## Paths without names -/

/-- The path is absent, or no name is in it. -/
def IsNameless (path : Option String) : Prop := ∀ p, path = some p → pathNames p = []

/-- A path without names stays where it is. -/
theorem Tree.target?_of_isNameless {t : Tree} {id : WidgetId} {w : Widget}
    (hget : t.get? id = some w) {path : Option String} (h : IsNameless path) :
    View.target? ⟨t, id, w⟩ path = some ⟨t, id, w⟩ := by
  cases path with
  | none => rfl
  | some p =>
    have hchild : View.child? ⟨t, id, w⟩ p = some ⟨t, id, w⟩ := by
      rw [View.child?, find?, h p rfl, descend, Option.bind_some, view?, hget, Option.map_some]
    unfold View.target?
    simp only [hchild, ite_self]

namespace Tree

variable {t t' : Tree} {id u : WidgetId} {w : Widget}

/-! ## Widgets in line -/

/-- One of the widgets is above the other, or they are one. -/
def InLine (t : Tree) (a b : WidgetId) : Prop := t.Above a b ∨ t.Above b a

/-- Up again from below a widget leads to widgets in line with it. -/
theorem inLine_of_above {a y : WidgetId} (hy : t.Above id y) (ha : t.Above a y) : t.InLine a id :=
  above_total ha hy

/-- **All that is in line with a widget is the same in both trees**: its paths lead to the same. -/
theorem WellFormed.alikeAt (h : t.WellFormed) (hchildren : t'.children = t.children)
    (hresources : t'.resources = t.resources) (halign : t'.alignPixels = t.alignPixels)
    (hget : t.get? id = some w) (hsame : ∀ a, t.InLine a id → t'.get? a = t.get? a)
    (path : Option String) : View.AlikeAt ⟨t, id, w⟩ ⟨t', id, w⟩ path := by
  have hself : View.Alike ⟨t, id, w⟩ ⟨t', id, w⟩ :=
    h.alike hresources halign hget fun a ha => hsame a (.inl ha)
  -- a widget below is measured by all above it, which is in line with this one
  have hview : ∀ y, t.Above id y → Option.Rel View.Alike (t.view? y) (t'.view? y) := by
    intro y hy
    rw [view?, view?, hsame y (.inr hy)]
    cases hgety : t.get? y with
    | none => exact .none
    | some wy =>
      exact .some (h.alike hresources halign hgety fun a ha => hsame a (inLine_of_above hy ha))
  unfold View.AlikeAt
  cases path with
  | none => exact .some hself
  | some p =>
    have hfind : t'.find? id p = t.find? id p :=
      h.descend_congr hchildren fun a ha => hsame a (.inr ha)
    unfold View.target?
    by_cases hempty : p = ""
    · simp only [hempty, if_true]
      exact .some hself
    · simp only [hempty, if_false, View.child?, hfind]
      cases hy : t.find? id p with
      | none => exact .none
      | some y => exact hview y (h.above_of_find? hy)

/-! ## Edits -/

/-- **An edit of a widget is not seen beside it**, and above it only through a path with a name:
sizes, places, dimensions and areas stay.  Whatever the edit makes of the widget, no link is read but
those that it leaves alone. -/
theorem Built.edit_unseen (h : t.Built) (f : Widget → Widget) {v : View} (hv : t.view? id = some v)
    (hbelow : ¬ t.Above u id) :
    ∃ v', (t.edit u f).view? id = some v' ∧ v.SamePlace v' ∧
      (∀ n : Node, (t.Above id u → ∀ p ∈ n.paths, IsNameless p) → n.SameValue v v') ∧
      ∀ a : Area, (t.Above id u → ∀ p ∈ a.paths, IsNameless p) → a.SameRect v v' := by
  obtain ⟨w, hget, rfl⟩ := view?_eq_some_iff.1 hv
  have hother : ∀ {a}, a ≠ u → (t.edit u f).get? a = t.get? a := by
    intro a ha
    rw [get?_edit, if_neg ha]
  have habove : ∀ a, t.Above a id → (t.edit u f).get? a = t.get? a := by
    rintro a ha
    exact hother fun hau => hbelow (hau ▸ ha)
  have hget' : (t.edit u f).get? id = some w := (habove id (.refl t id)).trans hget
  have halike : View.Alike ⟨t, id, w⟩ ⟨t.edit u f, id, w⟩ :=
    h.wellFormed.alike rfl rfl hget habove
  have hpath : ∀ p, (t.Above id u → IsNameless p) →
      View.AlikeAt ⟨t, id, w⟩ ⟨t.edit u f, id, w⟩ p := by
    intro p hp
    by_cases hu : t.Above id u
    · rw [View.AlikeAt, target?_of_isNameless hget (hp hu), target?_of_isNameless hget' (hp hu)]
      exact .some halike
    · have hline : ∀ a, t.InLine a id → (t.edit u f).get? a = t.get? a := by
        refine fun a ha => hother ?_
        rintro rfl
        exact ha.elim hbelow hu
      have hchildren : (t.edit u f).children = t.children := rfl
      exact h.wellFormed.alikeAt hchildren rfl rfl hget hline p
  refine ⟨⟨t.edit u f, id, w⟩, view?_eq_some_iff.2 ⟨w, hget', rfl⟩,
    h.wellFormed.samePlace rfl rfl hget habove, fun n hn => ?_, fun a ha => ?_⟩
  · have hat : ∀ p ∈ n.paths, View.AlikeAt ⟨t, id, w⟩ ⟨t.edit u f, id, w⟩ p := fun p hp =>
      hpath p fun hu => hn hu p hp
    exact n.sameValue halike hat fun m hm => m.font?_congr rfl (hat _ (n.widget_mem_paths m hm))
  · have hat : ∀ p ∈ a.paths, View.AlikeAt ⟨t, id, w⟩ ⟨t.edit u f, id, w⟩ p := fun p hp =>
      hpath p fun hu => ha hu p hp
    exact a.sameRect halike hat fun m hm => m.font?_congr rfl (hat _ (a.widget_mem_paths hm))

/-- A panel with two labels in it. -/
def labels : Tree :=
  let panel := (Tree.ofResources (.ofDisplay ⟨300, 200⟩)).freshId.2.addRoot 1 (.named "panel")
  (panel.freshId.2.addChild 1 2 (.named "left")).freshId.2.addChild 1 3 (.named "right")

theorem built_labels : labels.Built :=
  (((Built.ofResources _).freshId.addRoot rfl _).freshId.addChild rfl rfl _).freshId.addChild
    rfl rfl _

/-- Another name for a label, and no room. -/
def collapsed (w : Widget) : Widget :=
  { w with name := "hidden", area := .ofEdges .zero .zero .zero .zero }

/-- The other label measures what it did, and so does the panel, which loses the label by name. -/
theorem edit_unseen_labels : labels.find? 1 "left" = some 2 ∧
    (labels.edit 2 collapsed).find? 1 "left" = none ∧
    (∃ v v', labels.view? 3 = some v ∧ (labels.edit 2 collapsed).view? 3 = some v' ∧
      v.SamePlace v' ∧ (Node.widget ⟨some "icon/mark", .width⟩).SameValue v v') ∧
    ∃ v v', labels.view? 1 = some v ∧ (labels.edit 2 collapsed).view? 1 = some v' ∧
      v.SamePlace v' ∧ Area.whole.SameRect v v' ∧
      (Node.widget ⟨some "/", .width⟩).SameValue v v' := by
  have hright : ¬ labels.Above 2 3 := by
    rw [← built_labels.wellFormed.mem_subtree_iff]
    decide
  have hpanel : ¬ labels.Above 2 1 := by
    rw [← built_labels.wellFormed.mem_subtree_iff]
    decide
  have hbeside : ¬ labels.Above 3 2 := by
    rw [← built_labels.wellFormed.mem_subtree_iff]
    decide
  have hslash : ∀ p ∈ (Node.widget ⟨some "/", .width⟩).paths, IsNameless p := by
    intro p hp
    rw [List.mem_singleton.1 hp]
    rintro _ ⟨⟩
    decide
  obtain ⟨r, hr, hrplace, hrnode, -⟩ := built_labels.edit_unseen collapsed rfl hright
  obtain ⟨p, hp, hpplace, hpnode, hparea⟩ := built_labels.edit_unseen collapsed rfl hpanel
  refine ⟨by decide, by decide, ⟨_, r, rfl, hr, hrplace, hrnode _ fun h => absurd h hbeside⟩,
    _, p, rfl, hp, hpplace, hparea _ fun _ => ?_, hpnode _ fun _ => hslash⟩
  exact List.forall_mem_nil _

end Tree

end SkinLayout
