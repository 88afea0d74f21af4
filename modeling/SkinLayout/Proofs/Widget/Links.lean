import SkinLayout.Proofs.Widget.Building
import SkinLayout.Proofs.Widget.Places
/-!
# Links in every tree that is built

Parents, child lists and roots are kept apart, and every operation on a tree has to keep them
together (`Build.Reached.tree_linked`).  What walks up the parents ends because of it, so every
widget has a size and a place.
-/
namespace SkinLayout

/-! ## Links that fit -/

namespace Tree

variable {t : Tree} {id : WidgetId} {l : List WidgetId}

/-- A lineage ends at a root. -/
theorem Lineage.exists_root (h : t.Lineage id l) (hwf : t.WellFormed) :
    ∃ root ∈ t.roots, l.getLast? = some root := by
  induction h with
  | @root id w hget hparent => exact ⟨id, hwf.mem_roots.2 ⟨w, hget, hparent⟩, rfl⟩
  | child _ _ _ ih =>
    obtain ⟨root, hroot, hlast⟩ := ih
    exact ⟨root, hroot, by rw [List.getLast?_cons, hlast, Option.getD_some]⟩

/-- What parents, child lists and roots say of each other, and that walks up end. -/
structure Linked (t : Tree) : Prop where
  keys : ∀ id, id ∈ t.widgets.keys ↔ id ∈ t.children.keys
  count_children : ∀ p c, (t.childrenOf p).count c = if t.parentOf c = some p then 1 else 0
  count_roots : ∀ id,
    t.roots.count id = if (t.get? id).map Widget.parent = some none then 1 else 0
  parent_mem_keys : ∀ {c p}, t.parentOf c = some p → p ∈ t.widgets.keys
  lineage : ∀ id ∈ t.widgets.keys,
    ∃ l, t.Lineage id l ∧ l.Nodup ∧ ∃ root ∈ t.roots, l.getLast? = some root
  sized_iff : ∀ id s, t.Sized id s ↔ s = t.pixelSize id
  placed_iff : ∀ {id v}, t.view? id = some v → ∀ o, v.Placed o ↔ o = v.origin

theorem WellFormed.linked (h : t.WellFormed) : t.Linked where
  keys id := by rw [Table.mem_keys_iff, Table.mem_keys_iff, h.isSome_children]; rfl
  count_children p c := by simp only [(h.nodup_children p).count, h.mem_children]
  count_roots id := by simp only [h.nodup_roots.count, h.mem_roots, Option.map_eq_some_iff]
  parent_mem_keys hparent := Table.mem_keys_iff.2 (h.isSome_of_parentOf hparent)
  lineage id hid := by
    obtain ⟨w, hget⟩ := Option.isSome_iff_exists.1 (Table.mem_keys_iff.1 hid)
    obtain ⟨l, hl⟩ := h.lineage hget
    exact ⟨l, hl, hl.nodup, hl.exists_root h⟩
  sized_iff id s := ⟨fun hs => hs.unique (h.sized id), fun hs => hs ▸ h.sized id⟩
  placed_iff hv o := by
    obtain ⟨w, hget, rfl⟩ := view?_eq_some_iff.1 hv
    obtain ⟨l, hl⟩ := h.lineage hget
    exact ⟨fun ho => ho.unique (hl.placed hget), fun ho => ho ▸ hl.placed hget⟩

end Tree

/-! ## Runs -/

namespace Build

/-- One operation on a tree: an edit of its links, a new area or a new point size. -/
inductive Operation : Build → Build → Prop
  | edit {b b' : Build} (h : b.Edit b') : Operation b b'
  | setArea (b : Build) (id : WidgetId) (area : UnifiedRect) :
    Operation b ⟨b.tree.setArea id area, b.unused⟩
  | setPointSize (b : Build) (font : String) (size : Float32) :
    Operation b ⟨b.tree.setPointSize font size, b.unused⟩

/-- The trees of all runs, from trees without widgets. -/
inductive Reached : Build → Prop
  | ofResources (r : Resources) : Reached ⟨.ofResources r, []⟩
  | ofConfig (c : Config) : Reached ⟨.ofConfig c, []⟩
  | step {b b' : Build} (h : Reached b) (hop : b.Operation b') : Reached b'

variable {b b' : Build}

theorem Operation.sound (hop : b.Operation b') (h : b.Sound) : b'.Sound := by
  cases hop with
  | edit hedit => exact hedit.sound h
  | setArea id area => exact h.setArea id area
  | setPointSize font size => exact h.setPointSize font size

theorem Reached.sound (h : b.Reached) : b.Sound := by
  induction h with
  | ofResources r => exact .start _ _ _
  | ofConfig c => exact .start _ _ _
  | step _ hop ih => exact hop.sound ih

/-- **In every tree of every run the links fit together.** -/
theorem Reached.tree_linked (h : b.Reached) : b.tree.Linked := h.sound.wellFormed.linked

/-- A panel with two labels in it, one of which was removed after the panel got another area. -/
def oneLabelLeft : Build :=
  let numbered := (Tree.ofResources (.ofDisplay ⟨300, 200⟩)).freshId.2.freshId.2.freshId.2
  let filled := ((numbered.addRoot 1 (.named "panel")).addChild 1 2 (.named "a")).addChild 1 3
    (.named "b")
  ⟨(filled.setArea 1 (.ofEdges .zero .zero (.relative 0.5) .full)).remove 2, []⟩

theorem oneLabelLeft_linked : oneLabelLeft.Reached ∧ oneLabelLeft.tree.childrenOf 1 = [3] ∧
    oneLabelLeft.tree.roots = [1] ∧ oneLabelLeft.tree.Linked := by
  have hnumbers := (((Reached.ofResources (.ofDisplay ⟨300, 200⟩)).step (.edit (.freshId _))).step
    (.edit (.freshId _))).step (.edit (.freshId _))
  have hpanel := hnumbers.step (.edit (@Edit.addRoot _ 1 (.named "panel") (by decide)))
  have hfirst := hpanel.step (.edit (@Edit.addChild _ 1 2 (.named "a") (by decide) rfl))
  have hsecond := hfirst.step (.edit (@Edit.addChild _ 1 3 (.named "b") (by decide) rfl))
  have harea := hsecond.step (.setArea _ 1 (.ofEdges .zero .zero (.relative 0.5) .full))
  have hrun : oneLabelLeft.Reached := harea.step (.edit (.remove _ 2))
  exact ⟨hrun, rfl, rfl, hrun.tree_linked⟩

end Build

end SkinLayout
