import SkinLayout.Config.Basic
import SkinLayout.Proofs.Widget.Removal
/-!
# Trees being built

A tree gives out numbers, and a number becomes a widget at most once: as long as widgets are only
added under numbers that were given out and not used, the links of the tree fit together, and a
number that was used never means another widget again.  For the links alone it is enough that the
tree has no widget of that number (`Tree.Built.wellFormed`).
-/
namespace SkinLayout

/-! ## Free numbers -/

namespace Tree

/-- Trees built step by step: a new widget has a number that is free and a parent that is there.  A
widget may change but for its parent, and so may fonts, images and the display. -/
inductive Built : Tree → Prop
  | ofResources (r : Resources) : Built (.ofResources r)
  | ofConfig (c : Config) : Built (.ofConfig c)
  | freshId {t : Tree} (h : Built t) : Built t.freshId.2
  | addRoot {t : Tree} {id : WidgetId} (h : Built t) (habsent : t.get? id = none) (w : Widget) :
    Built (t.addRoot id w)
  | addChild {t : Tree} {p id : WidgetId} (h : Built t) (habsent : t.get? id = none)
    (hp : (t.get? p).isSome) (w : Widget) : Built (t.addChild p id w)
  | remove {t : Tree} (h : Built t) (id : WidgetId) : Built (t.remove id)
  | edit {t : Tree} {id : WidgetId} {f : Widget → Widget} (h : Built t)
    (hf : ∀ w, t.get? id = some w → (f w).parent = w.parent) : Built (t.edit id f)
  | withResources {t : Tree} (h : Built t) (r : Resources) : Built { t with resources := r }

theorem Built.wellFormed {t : Tree} (h : t.Built) : t.WellFormed := by
  induction h with
  | ofResources r => exact .start _ _ _
  | ofConfig c => exact .start _ _ _
  | freshId _ ih => exact ih.freshId
  | addRoot _ habsent w ih => exact ih.addRoot habsent w
  | addChild _ habsent hp w ih => exact ih.addChild habsent hp w
  | remove _ id ih => exact ih.remove id
  | edit _ hf ih => exact ih.edit hf
  | withResources _ r ih => exact ih.congr (fun _ => rfl) (fun _ => rfl) rfl

end Tree

/-! ## Numbers given out -/

/-- A tree, and the numbers it gave out that no widget has had yet. -/
structure Build where
  tree : Tree
  unused : List WidgetId

namespace Build

variable {b b' : Build} {id : WidgetId} {w : Widget}

/-- One edit of the links: a number is given out or used, or a widget is removed. -/
inductive Edit : Build → Build → Prop
  | freshId (b : Build) : Edit b ⟨b.tree.freshId.2, b.tree.freshId.1 :: b.unused⟩
  | addRoot {b : Build} {id : WidgetId} (w : Widget) (hid : id ∈ b.unused) :
    Edit b ⟨b.tree.addRoot id w, b.unused.filter (· ≠ id)⟩
  | addChild {b : Build} {parent id : WidgetId} (w : Widget) (hid : id ∈ b.unused)
    (hparent : (b.tree.get? parent).isSome) :
    Edit b ⟨b.tree.addChild parent id w, b.unused.filter (· ≠ id)⟩
  | remove (b : Build) (id : WidgetId) : Edit b ⟨b.tree.remove id, b.unused⟩

/-- The number was given out and used. -/
def Spent (b : Build) (id : WidgetId) : Prop := id < b.tree.nextId ∧ id ∉ b.unused

/-- Links fit together, and every widget has a number that was given out for it. -/
structure Sound (b : Build) : Prop where
  wellFormed : b.tree.WellFormed
  lt_nextId : ∀ id ∈ b.unused, id < b.tree.nextId
  spent : ∀ {id w}, b.tree.get? id = some w → b.Spent id

namespace Sound

theorem start (nextId : WidgetId) (r : Resources) (align : Bool) :
    Sound ⟨⟨.empty, [], .empty, nextId, r, align⟩, []⟩ :=
  ⟨.start nextId r align, fun _ hid => (by cases hid), fun hget => (by cases hget)⟩

theorem absent_of_unused (h : b.Sound) (hid : id ∈ b.unused) : b.tree.get? id = none := by
  cases hget : b.tree.get? id with
  | none => rfl
  | some w => exact absurd hid (h.spent hget).2

/-- What keeps the numbers and the links keeps a build sound. -/
theorem congr {t : Tree} (h : b.Sound) (hwf : t.WellFormed) (hnext : t.nextId = b.tree.nextId)
    (hsome : ∀ id, (t.get? id).isSome → (b.tree.get? id).isSome) : Sound ⟨t, b.unused⟩ := by
  refine ⟨hwf, fun id hid => hnext ▸ h.lt_nextId id hid, fun {id w} hget => ?_⟩
  obtain ⟨v, hv⟩ := Option.isSome_iff_exists.1 (hsome id (Option.isSome_iff_exists.2 ⟨w, hget⟩))
  obtain ⟨hlt, hunused⟩ := h.spent hv
  exact ⟨hnext ▸ hlt, hunused⟩

theorem setArea (h : b.Sound) (id : WidgetId) (area : UnifiedRect) :
    Sound ⟨b.tree.setArea id area, b.unused⟩ := by
  refine h.congr (h.wellFormed.setArea id area) rfl fun x hx => ?_
  rw [Tree.get?_setArea] at hx
  by_cases hxid : x = id
  · rwa [if_pos hxid, Option.isSome_map] at hx
  · rwa [if_neg hxid] at hx

theorem setPointSize (h : b.Sound) (font : String) (size : Float32) :
    Sound ⟨b.tree.setPointSize font size, b.unused⟩ :=
  h.congr (h.wellFormed.setPointSize font size) rfl fun _ hx => hx

/-- A number is used for a widget. -/
theorem use {t : Tree} (h : b.Sound) (hwf : t.WellFormed) (hnext : t.nextId = b.tree.nextId)
    (hid : id ∈ b.unused) (hget : ∀ x, x ≠ id → t.get? x = b.tree.get? x) :
    Sound ⟨t, b.unused.filter (· ≠ id)⟩ := by
  refine ⟨hwf, fun x hx => ?_, fun {x w} hx => ?_⟩
  · exact hnext ▸ h.lt_nextId x (List.mem_of_mem_filter hx)
  · by_cases hxid : x = id
    · subst hxid
      exact ⟨hnext ▸ h.lt_nextId x hid, by simp⟩
    · rw [hget x hxid] at hx
      obtain ⟨hlt, hunused⟩ := h.spent hx
      exact ⟨hnext ▸ hlt, fun hmem => hunused (List.mem_of_mem_filter hmem)⟩

end Sound

namespace Edit

/-- **An edit keeps a build sound.** -/
theorem sound (h : b.Edit b') (hb : b.Sound) : b'.Sound := by
  cases h with
  | freshId =>
    refine ⟨hb.wellFormed.freshId, fun id hid => ?_, fun {id w} hget => ?_⟩
    · show id < b.tree.nextId + 1
      rcases List.mem_cons.1 hid with rfl | hid
      · exact Nat.lt_succ_self _
      · exact Nat.lt_succ_of_lt (hb.lt_nextId id hid)
    · have hold : b.tree.get? id = some w := hget
      obtain ⟨hlt, hunused⟩ := hb.spent hold
      exact ⟨Nat.lt_succ_of_lt hlt, List.not_mem_cons_of_ne_of_not_mem (Nat.ne_of_lt hlt) hunused⟩
  | addRoot w hid =>
    exact hb.use (hb.wellFormed.addRoot (hb.absent_of_unused hid) w) rfl hid fun x hx =>
      (b.tree.get?_addRoot _ w x).trans (if_neg hx)
  | addChild w hid hparent =>
    exact hb.use (hb.wellFormed.addChild (hb.absent_of_unused hid) hparent w) rfl hid fun x hx =>
      (b.tree.get?_addChild _ _ w x).trans (if_neg hx)
  | remove id =>
    refine hb.congr (hb.wellFormed.remove id) (hb.wellFormed.pruned_remove id).nextId fun x hx => ?_
    obtain ⟨w, hget⟩ := Option.isSome_iff_exists.1 hx
    rwa [hb.wellFormed.get?_remove_of_not_above (hb.wellFormed.not_above_of_get?_remove hget)] at hx

/-- A number that was used stays so. -/
theorem spent (h : b.Edit b') (hb : b.Sound) (hid : b.Spent id) : b'.Spent id := by
  obtain ⟨hlt, hunused⟩ := hid
  cases h with
  | freshId =>
    exact ⟨Nat.lt_succ_of_lt hlt, List.not_mem_cons_of_ne_of_not_mem (Nat.ne_of_lt hlt) hunused⟩
  | addRoot w hid => exact ⟨hlt, fun hmem => hunused (List.mem_of_mem_filter hmem)⟩
  | addChild w hid hparent => exact ⟨hlt, fun hmem => hunused (List.mem_of_mem_filter hmem)⟩
  | remove x => exact ⟨(hb.wellFormed.pruned_remove x).nextId ▸ hlt, hunused⟩

theorem resources (h : b.Edit b') (hb : b.Sound) : b'.tree.resources = b.tree.resources := by
  cases h with
  | freshId => rfl
  | addRoot w hid => rfl
  | addChild w hid hparent => rfl
  | remove id => exact (hb.wellFormed.pruned_remove id).resources

theorem alignPixels (h : b.Edit b') (hb : b.Sound) :
    b'.tree.alignPixels = b.tree.alignPixels := by
  cases h with
  | freshId => rfl
  | addRoot w hid => rfl
  | addChild w hid hparent => rfl
  | remove id => exact (hb.wellFormed.pruned_remove id).alignPixels

/-- **An edit changes nothing above a widget that it leaves in the tree.** -/
theorem get?_above (h : b.Edit b') (hb : b.Sound) (hid : b.Spent id)
    (hget : b'.tree.get? id = some w) {a : WidgetId} (ha : b.tree.Above a id) :
    b'.tree.get? a = b.tree.get? a := by
  -- a number that is about to be used stands above none but itself
  have hnew : ∀ {x}, x ∈ b.unused → a ≠ x := by
    rintro x hx rfl
    have hself := hb.wellFormed.above_of_absent (hb.absent_of_unused hx) ha
    exact hid.2 (hself ▸ hx)
  cases h with
  | freshId => rfl
  | addRoot v hx => exact (b.tree.get?_addRoot _ v a).trans (if_neg (hnew hx))
  | addChild v hx hparent => exact (b.tree.get?_addChild _ _ v a).trans (if_neg (hnew hx))
  | remove x =>
    have hleft := hb.wellFormed.not_above_of_get?_remove hget
    exact hb.wellFormed.get?_remove_of_not_above fun hxa => hleft (hxa.trans ha)

end Edit

end Build

end SkinLayout
