import SkinLayout.Proofs.Cache.Entries
import SkinLayout.Proofs.Dimension.Equality
import SkinLayout.Proofs.Dimension.Locality
import SkinLayout.Proofs.Widget.Subtree
/-!
# Invalidation goes downwards

Invalidating a widget drops its entries and those of the widgets below it, whose sizes derive from
its own.  An area may look down as well, at a widget that a path names; the entry of such an area
outlives the invalidation of that widget, and answers until its own widget or one above it is
invalidated (`answer_after_setArea`).
-/
namespace SkinLayout
namespace Cache

variable {c : Cache} {t t' : Tree} {id w u : WidgetId} {name : String} {area : Area} {rect : Rect}

/-! ## Hits -/

theorem hit?_eq_some : c.hit? id name area = some rect ↔
    ∃ a, c.entries.get? (id, name) = some (a, rect) ∧ (a == area) = true := by
  unfold hit?
  rw [Option.bind_eq_some_iff]
  constructor
  · rintro ⟨⟨a, r⟩, he, hr⟩
    by_cases ha : (a == area) = true
    · rw [if_pos ha] at hr
      cases hr
      exact ⟨a, he, ha⟩
    · rw [if_neg ha] at hr
      cases hr
  · rintro ⟨a, he, ha⟩
    exact ⟨(a, rect), he, if_pos ha⟩

theorem hit?_invalidate (c : Cache) (t : Tree) (id w : WidgetId) (name : String) (area : Area) :
    (c.invalidate t id).value.2.hit? w name area =
      if w ∈ t.subtree id then none else c.hit? w name area := by
  unfold hit?
  rw [get?_invalidate]
  by_cases hw : w ∈ t.subtree id
  · rw [if_pos hw, if_pos hw]; rfl
  · rw [if_neg hw, if_neg hw]

/-- An area that was resolved is hit from then on, unless it differs from itself. -/
theorem hit?_resolve (h : (c.resolve t id name area).value.1 = .ok rect) :
    (c.resolve t id name area).value.2.hit? id name area =
      if (area == area) = true then some rect else none := by
  cases hhit : c.hit? id name area with
  | some r =>
    obtain ⟨a, _, ha⟩ := hit?_eq_some.1 hhit
    rw [resolve_of_hit hhit] at h ⊢
    cases h
    rw [hhit, if_pos (Area.beq_self_of_beq ha)]
  | none =>
    rw [answer_of_miss hhit] at h
    rw [resolve_of_ok hhit h]
    unfold hit?
    rw [get?_store, if_pos rfl]
    rfl

/-! ## After a change -/

theorem answer_after_invalidate (h : (c.resolve t w name area).value.1 = .ok rect) (id : WidgetId) :
    (((c.resolve t w name area).value.2.invalidate t' id).value.2.resolve t' w name area).value.1 =
      if w ∈ t'.subtree id ∨ (area == area) = false then (compute t' w area).result
      else .ok rect := by
  have hhit := hit?_invalidate (c.resolve t w name area).value.2 t' id w name area
  rw [hit?_resolve h] at hhit
  by_cases hw : w ∈ t'.subtree id
  · rw [if_pos hw] at hhit
    rw [if_pos (.inl hw), answer_of_miss hhit]
  · rw [if_neg hw] at hhit
    by_cases hself : (area == area) = true
    · rw [if_pos hself] at hhit
      rw [if_neg (by simp [hw, hself]), resolve_of_hit hhit]
    · rw [if_neg hself] at hhit
      rw [if_pos (.inr (Bool.eq_false_iff.2 hself)), answer_of_miss hhit]

/-- **An area that was resolved is answered anew after a change of geometry if its own widget or one
above it is invalidated**, or if it differs from itself; otherwise as it was before.  Invalidating a
widget below it, which a path of the area may name, is of the second kind. -/
theorem answer_after_setArea (h : (c.resolve t w name area).value.1 = .ok rect) (u : WidgetId)
    (new : UnifiedRect) :
    (∀ id, (((c.resolve t w name area).value.2.invalidate (t.setArea u new) id).value.2.resolve
        (t.setArea u new) w name area).value.1 =
      if w ∈ t.subtree id ∨ (area == area) = false then (compute (t.setArea u new) w area).result
      else .ok rect) ∧
    (t.WellFormed → ∀ path, t.find? w path = some u → u ≠ w → w ∉ t.subtree u) := by
  refine ⟨fun id => ?_, fun hwf path hfind hne hw => ?_⟩
  · have hchildren : (t.setArea u new).children = t.children := rfl
    rw [answer_after_invalidate h, Tree.subtree_congr hchildren]
  · exact hne (hwf.above_antisymm (hwf.mem_subtree_iff.1 hw) (hwf.above_of_find? hfind))

/-- A panel as large as the display. -/
def panel : Tree :=
  (Tree.ofResources (.ofDisplay ⟨300, 200⟩)).freshId.2.addRoot 1 (.named "panel")

/-- In it a pane of half its width. -/
def paneled : Tree :=
  let half := UnifiedRect.ofEdges .zero .zero (.relative 0.5) .full
  panel.freshId.2.addChild 1 2 { Widget.named "pane" with area := half }

/-- The pane as wide as the panel. -/
def widened : Tree := paneled.setArea 2 (.ofEdges .zero .zero .full .full)

/-- An area as wide as the widget named. -/
def paneWide : Area :=
  { Area.whole with right := ⟨.width, .widget ⟨some "pane", .width⟩⟩ }

/-- The cache once the panel was asked for `paneWide`. -/
def asked : Cache := (Cache.empty.resolve paneled 1 "Body" paneWide).value.2

/-- Told of the pane, the panel keeps its area as wide as the pane was. -/
theorem paneWide_outlives_pane : paneled.WellFormed ∧
    some "pane" ∈ paneWide.paths ∧ paneled.find? 1 "pane" = some 2 ∧
    (Cache.empty.resolve paneled 1 "Body" paneWide).value.1 = .ok ⟨0, 0, 150, 200⟩ ∧
    ((asked.invalidate widened 2).value.2.resolve widened 1 "Body" paneWide).value.1 ≠
      (compute widened 1 paneWide).result := by
  have hpanel : panel.WellFormed :=
    (Tree.WellFormed.start 1 (.ofDisplay ⟨300, 200⟩) true).freshId.addRoot rfl (.named "panel")
  have hwf : paneled.WellFormed := hpanel.freshId.addChild rfl rfl _
  have hanswer : ((asked.invalidate widened 2).value.2.resolve widened 1 "Body" paneWide).value.1 =
      .ok ⟨0, 0, 150, 200⟩ := rfl
  have hcompute : (compute widened 1 paneWide).result = .ok ⟨0, 0, 300, 200⟩ := rfl
  refine ⟨hwf, by decide, rfl, rfl, ?_⟩
  rw [hanswer, hcompute]
  intro h
  injection h with h
  have hwidth : (150 : Float32) = 300 := congrArg Rect.width h
  exact absurd hwidth (by decide)

theorem answer_after_widened :
    ((asked.invalidate widened 2).value.2.resolve widened 1 "Body" paneWide).value.1 =
      .ok ⟨0, 0, 150, 200⟩ ∧
    ((asked.invalidate widened 1).value.2.resolve widened 1 "Body" paneWide).value.1 =
      .ok ⟨0, 0, 300, 200⟩ := by
  have hasked : (Cache.empty.resolve paneled 1 "Body" paneWide).value.1 = .ok ⟨0, 0, 150, 200⟩ :=
    rfl
  obtain ⟨hanswer, -⟩ := answer_after_setArea hasked 2 (.ofEdges .zero .zero .full .full)
  exact ⟨(hanswer 2).trans rfl, (hanswer 1).trans rfl⟩

end Cache

end SkinLayout
