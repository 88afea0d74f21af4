import SkinLayout.Proofs.Widget.Links
/-!
# What a removal leaves

A removal takes the widgets that have the removed one among their parents, and every other widget
stays as it was, in its place in the lists and on screen (`Built.remainder_remove`).  Only one list
of those that stay loses anything: the list that named the removed widget.
-/
namespace SkinLayout

theorem Table.erase_of_absent {κ α : Type} [DecidableEq κ] {t : Table κ α} {k : κ}
    (habsent : t.get? k = none) : t.erase k = t := by
  have hentries : (t.erase k).entries = t.entries := by
    refine List.filter_eq_self.2 fun e he => decide_eq_true ?_
    rintro rfl
    have hget : t.get? e.1 = some e.2 := Table.get?_eq_some_iff.2 he
    rw [habsent] at hget
    cases hget
  rcases t with ⟨entries, hnodup⟩
  rcases he : Table.erase _ k with ⟨entries', hnodup'⟩
  rw [he] at hentries
  cases hentries
  rfl

namespace Tree

variable {t t' : Tree} {id c x : WidgetId}

/-- Where no parent is below a widget, that widget alone is. -/
theorem above_iff_eq (hparent : ∀ p, t.parentOf c = some p → ¬ t.Above id p) :
    t.Above id c ↔ c = id := by
  rw [above_iff]
  exact or_iff_left fun ⟨p, hp, habove⟩ => hparent p hp habove

namespace WellFormed

theorem mem_keys_remove_iff (h : t.WellFormed) :
    x ∈ (t.remove id).widgets.keys ↔ x ∈ t.widgets.keys ∧ ¬ t.Above id x := by
  rw [Table.mem_keys_iff, Table.mem_keys_iff]
  show ((t.remove id).get? x).isSome ↔ (t.get? x).isSome ∧ ¬ t.Above id x
  by_cases hx : t.Above id x
  · simp [h.get?_remove_of_above hx, hx]
  · simp [h.get?_remove_of_not_above hx, hx]

/-- A list whose parents all stay loses the removed widget, if anything. -/
theorem filter_subtree (h : t.WellFormed) {l : List WidgetId}
    (hparent : ∀ c ∈ l, ∀ p, t.parentOf c = some p → ¬ t.Above id p) :
    l.filter (· ∉ t.subtree id) = l.filter (· ≠ id) := by
  refine List.filter_congr fun c hc => ?_
  simp only [h.mem_subtree_iff, above_iff_eq (hparent c hc), ne_eq]

theorem filter_childrenOf (h : t.WellFormed) (hx : ¬ t.Above id x) :
    (t.childrenOf x).filter (· ∉ t.subtree id) = (t.childrenOf x).filter (· ≠ id) := by
  refine h.filter_subtree fun c hc p hp => ?_
  rw [h.mem_children.1 hc] at hp
  cases hp
  exact hx

theorem filter_roots (h : t.WellFormed) (id : WidgetId) :
    t.roots.filter (· ∉ t.subtree id) = t.roots.filter (· ≠ id) := by
  refine h.filter_subtree fun c hc p hp => ?_
  rw [h.parentOf_of_mem_roots hc] at hp
  cases hp

/-- Removing what is not there changes nothing. -/
theorem remove_of_absent (h : t.WellFormed) (habsent : t.get? id = none) : t.remove id = t := by
  have hunlink : t.unlink id = t := by
    rw [unlink, habsent, Option.bind_none]
  have hroots : t.roots.filter (· ≠ id) = t.roots := by
    refine List.filter_eq_self.2 fun r hr => decide_eq_true ?_
    rintro rfl
    exact h.not_mem_roots_of_absent habsent hr
  have hwidgets : t.widgets.erase id = t.widgets := Table.erase_of_absent habsent
  rw [Tree.remove, removeWith, h.children_of_absent habsent]
  show t.drop id = t
  rw [drop, hunlink, hroots, hwidgets]

end WellFormed

/-- The second tree is the first without a widget and all below it. -/
structure Remainder (t : Tree) (id : WidgetId) (t' : Tree) : Prop where
  mem_keys : ∀ x, x ∈ t'.widgets.keys ↔ x ∈ t.widgets.keys ∧ ¬ t.Above id x
  get? : ∀ x, ¬ t.Above id x → t'.get? x = t.get? x
  roots : t'.roots = t.roots.filter (· ≠ id)
  mem_children_keys : ∀ x, x ∈ t'.children.keys ↔ x ∈ t.children.keys ∧ ¬ t.Above id x
  childrenOf : ∀ x, ¬ t.Above id x → t'.childrenOf x = (t.childrenOf x).filter (· ≠ id)
  samePlace : ∀ {x w}, t'.get? x = some w → View.SamePlace ⟨t, x, w⟩ ⟨t', x, w⟩
  nextId : t'.nextId = t.nextId
  resources : t'.resources = t.resources
  alignPixels : t'.alignPixels = t.alignPixels
  eq_of_absent : t.get? id = none → t' = t

/-- **A removal takes exactly the subtree of its widget**, from every tree that is built step by
step: what is left is as it was, where it was, and a widget that is not there takes nothing. -/
theorem Built.remainder_remove (h : t.Built) (id : WidgetId) : t.Remainder id (t.remove id) := by
  have hwf := h.wellFormed
  have hpruned := hwf.pruned_remove id
  refine ⟨fun x => hwf.mem_keys_remove_iff, fun x => hwf.get?_remove_of_not_above,
    hpruned.roots.trans (hwf.filter_roots id), fun x => ?_, fun x hx => ?_, fun {x w} hget => ?_,
    hpruned.nextId, hpruned.resources, hpruned.alignPixels, hwf.remove_of_absent⟩
  · rw [← (hwf.remove id).linked.keys, ← hwf.linked.keys, hwf.mem_keys_remove_iff]
  · rw [hpruned.childrenOf, if_neg fun hmem => hx (hwf.mem_subtree_iff.1 hmem),
      hwf.filter_childrenOf hx]
  · have hx := hwf.not_above_of_get?_remove hget
    rw [hwf.get?_remove_of_not_above hx] at hget
    -- with a widget that stays all above it stays, and its place depends on nothing else
    exact hwf.samePlace hpruned.alignPixels (by rw [hpruned.resources]) hget fun a ha =>
      hwf.get?_remove_of_not_above fun hid => hx (hid.trans ha)

/-- A panel with two parts, each of which has a label, and another panel. -/
def twoParts : Tree :=
  (((((Tree.ofResources (.ofDisplay ⟨300, 200⟩)).addRoot 1 (.named "panel")).addChild 1 2
    (.named "left")).addChild 1 3 (.named "right")).addChild 2 4 (.named "label")).addChild 3 5
    (.named "label") |>.addRoot 6 (.named "panel")

/-- One part goes with its label; the other part and its label are where they were. -/
theorem twoParts_remainder : twoParts.Built ∧ (twoParts.remove 2).roots = [1, 6] ∧
    (twoParts.remove 2).childrenOf 1 = [3] ∧ 4 ∉ (twoParts.remove 2).widgets.keys ∧
    (twoParts.remove 2).get? 5 = twoParts.get? 5 ∧ twoParts.remove 7 = twoParts := by
  have hbuilt : twoParts.Built :=
    .addRoot (.addChild (.addChild (.addChild (.addChild (.addRoot (.ofResources _) rfl _) rfl rfl
      _) rfl rfl _) rfl rfl _) rfl rfl _) rfl _
  have hrest := hbuilt.remainder_remove 2
  have hpanel : ¬ twoParts.Above 2 1 := hbuilt.wellFormed.mem_subtree_iff.not.1 (by decide)
  have hlabel : ¬ twoParts.Above 2 5 := hbuilt.wellFormed.mem_subtree_iff.not.1 (by decide)
  have hgone : twoParts.Above 2 4 := hbuilt.wellFormed.mem_subtree_iff.1 (by decide)
  exact ⟨hbuilt, hrest.roots, hrest.childrenOf 1 hpanel, fun h => ((hrest.mem_keys 4).1 h).2 hgone,
    hrest.get? 5 hlabel, (hbuilt.remainder_remove 7).eq_of_absent rfl⟩

end Tree

end SkinLayout
