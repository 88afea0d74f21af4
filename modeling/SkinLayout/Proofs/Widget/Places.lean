import SkinLayout.Proofs.Widget.Sizes
/-!
# Places come from above

The place of a widget on screen comes from a walk up its parents, as its size does.  The walk
without a bound is a relation (`View.Placed`), and there is a place exactly where it ends
(`Tree.origin?_eq_some_iff`).  A widget with a lineage is placed in the rectangle of its parent, or
in the display if it has none (`Lineage.origin_eq`), so its place depends on the display and on the
widgets above it and on nothing else.
-/
namespace SkinLayout

namespace View

variable {v p : View} {o o' : Point Float32}

/-- The rectangle that a widget is placed in. -/
def outerRect (v : View) : Rect :=
  match v.parent? with
  | none => v.displayRect
  | some p => p.screenRect

/-! ## Walks without a bound -/

/-- The walk up from a widget ends, and places it here. -/
inductive Placed : View → Point Float32 → Prop
  | root {v : View} (hparent : v.parent? = none) : Placed v (v.originAt v.displayRect)
  | child {v p : View} {o : Point Float32} (hparent : v.parent? = some p) (ho : Placed p o) :
    Placed v (v.originAt (.ofSize o p.pixelSize))

theorem Placed.unique (h : v.Placed o) : v.Placed o' → o = o' := by
  induction h generalizing o' with
  | root hparent =>
    rintro (_ | ⟨hparent', _⟩)
    · rfl
    · rw [hparent] at hparent'; cases hparent'
  | child hparent _ ih =>
    rintro (hparent' | ⟨hparent', ho'⟩) <;> rw [hparent] at hparent' <;> cases hparent'
    rw [ih ho']

/-! ## Walks within a bound -/

theorem originWith?_root (n : Nat) (hparent : v.parent? = none) :
    v.originWith? (n + 1) = some (v.originAt v.displayRect) := by
  rw [originWith?, hparent]

theorem originWith?_child (n : Nat) (hparent : v.parent? = some p) :
    v.originWith? (n + 1) =
      (p.originWith? n).map fun o => v.originAt (.ofSize o p.pixelSize) := by
  rw [originWith?, hparent]

theorem placed_of_originWith? {n : Nat} (h : v.originWith? n = some o) : v.Placed o := by
  induction n generalizing v o with
  | zero => cases h
  | succ n ih =>
    cases hparent : v.parent? with
    | none =>
      rw [originWith?_root n hparent] at h
      cases h
      exact .root hparent
    | some p =>
      rw [originWith?_child n hparent] at h
      obtain ⟨o, ho, rfl⟩ := Option.map_eq_some_iff.1 h
      exact .child hparent (ih ho)

end View

namespace Tree

variable {t t' : Tree} {id p : WidgetId} {w w' : Widget} {l : List WidgetId} {v : View}
  {o : Point Float32}

theorem parent?_of_root (t : Tree) (id : WidgetId) (hparent : w.parent = none) :
    View.parent? ⟨t, id, w⟩ = none := by
  unfold View.parent?
  simp only [hparent, Option.bind_none]

theorem parent?_of_parent (t : Tree) (id : WidgetId) (hparent : w.parent = some p) :
    View.parent? ⟨t, id, w⟩ = t.view? p := by
  unfold View.parent?
  simp only [hparent, Option.bind_some]

theorem parent?_of_child (id : WidgetId) (hparent : w.parent = some p) (hget : t.get? p = some w') :
    View.parent? ⟨t, id, w⟩ = some ⟨t, p, w'⟩ := by
  rw [t.parent?_of_parent id hparent]
  exact view?_eq_some_iff.2 ⟨w', hget, rfl⟩

/-- The walk for the size of a widget goes at least as far as the one for its place. -/
theorem isSome_originWith? {n : Nat} (h : (t.pixelSizeWith? n id).isSome) (hv : t.view? id = some v) :
    (v.originWith? n).isSome := by
  induction n generalizing id v with
  | zero => cases h
  | succ n ih =>
    obtain ⟨w, hget, rfl⟩ := view?_eq_some_iff.1 hv
    cases hparent : View.parent? ⟨t, id, w⟩ with
    | none =>
      rw [View.originWith?_root n hparent]
      rfl
    | some q =>
      obtain ⟨p, hp, hq⟩ := Option.bind_eq_some_iff.1 hparent
      rw [pixelSizeWith?_child n hget hp, Option.isSome_map] at h
      rw [View.originWith?_child n hparent, Option.isSome_map]
      exact ih h hq

/-- The walk for the place of a widget shows that the one for its size ends. -/
theorem exists_sized_of_placed (h : v.Placed o) (hv : t.view? id = some v) :
    ∃ s, t.Sized id s := by
  induction h generalizing id with
  | root hnone =>
    obtain ⟨w, hget, rfl⟩ := view?_eq_some_iff.1 hv
    cases hparent : w.parent with
    | none => exact ⟨_, .root hget hparent⟩
    | some p =>
      rw [t.parent?_of_parent id hparent] at hnone
      exact ⟨_, .child hget hparent (.absent (Option.map_eq_none_iff.1 hnone))⟩
  | child hsome _ ih =>
    obtain ⟨w, hget, rfl⟩ := view?_eq_some_iff.1 hv
    obtain ⟨p, hp, hq⟩ := Option.bind_eq_some_iff.1 hsome
    obtain ⟨s, hs⟩ := ih hq
    exact ⟨_, .child hget hp hs⟩

/-- **A widget has a place exactly if the walk up its parents ends**, and it is the place that the
walk gives. -/
theorem origin?_eq_some_iff (hv : t.view? id = some v) : v.origin? = some o ↔ v.Placed o := by
  constructor
  · exact View.placed_of_originWith?
  · intro h
    obtain ⟨w, hget, rfl⟩ := view?_eq_some_iff.1 hv
    have hsize := isSome_pixelSize?_iff.2 (exists_sized_of_placed h hv)
    obtain ⟨o', ho'⟩ := Option.isSome_iff_exists.1 (isSome_originWith? hsize hv)
    rw [h.unique (View.placed_of_originWith? ho')]
    exact ho'

theorem origin_eq_of_placed (hv : t.view? id = some v) (h : v.Placed o) : v.origin = o := by
  rw [View.origin, (origin?_eq_some_iff hv).2 h, Option.getD_some]

namespace Lineage

theorem placed (h : t.Lineage id l) :
    ∀ {w}, t.get? id = some w → View.Placed ⟨t, id, w⟩ (View.origin ⟨t, id, w⟩) := by
  intro w hget
  suffices ∃ o, View.Placed ⟨t, id, w⟩ o by
    obtain ⟨o, ho⟩ := this
    rwa [origin_eq_of_placed (view?_eq_some_iff.2 ⟨w, hget, rfl⟩) ho]
  induction h generalizing w with
  | @root id _ hget' hparent =>
    rw [hget] at hget'
    cases hget'
    exact ⟨_, .root (t.parent?_of_root id hparent)⟩
  | @child id p _ l hget' hparent hl ih =>
    rw [hget] at hget'
    cases hget'
    obtain ⟨wp, hp⟩ := Option.isSome_iff_exists.1 hl.isSome
    obtain ⟨o, ho⟩ := ih hp
    exact ⟨_, .child (parent?_of_child id hparent hp) ho⟩

/-- **A widget is placed in the rectangle of its parent**, or in the display. -/
theorem origin_eq (h : t.Lineage id l) (hget : t.get? id = some w) :
    View.origin ⟨t, id, w⟩ = View.originAt ⟨t, id, w⟩ (View.outerRect ⟨t, id, w⟩) := by
  apply origin_eq_of_placed (view?_eq_some_iff.2 ⟨w, hget, rfl⟩)
  unfold View.outerRect
  cases h with
  | root hget' hparent =>
    rw [hget] at hget'
    cases hget'
    rw [t.parent?_of_root id hparent]
    exact .root (t.parent?_of_root id hparent)
  | child hget' hparent hl =>
    rw [hget] at hget'
    cases hget'
    obtain ⟨wp, hp⟩ := Option.isSome_iff_exists.1 hl.isSome
    have hchild := parent?_of_child id hparent hp
    rw [hchild]
    exact .child hchild (hl.placed hp)

section Congr

variable (halign : t'.alignPixels = t.alignPixels)
  (hdisplay : t'.resources.display = t.resources.display)

include halign hdisplay

/-- Above a widget two trees are the same: its place follows from the rectangle around it. -/
theorem origin_congr_of_outerRect (h : t.Lineage id l) (hsame : ∀ a ∈ l, t'.get? a = t.get? a)
    (hget : t.get? id = some w)
    (houter : View.outerRect ⟨t', id, w⟩ = View.outerRect ⟨t, id, w⟩) :
    View.origin ⟨t', id, w⟩ = View.origin ⟨t, id, w⟩ := by
  have h' : t'.Lineage id l := h.congr fun a ha => congrArg _ (hsame a ha)
  have hget' : t'.get? id = some w := (hsame id (h.mem_iff.2 (.refl t id))).trans hget
  have hsize : View.pixelSize ⟨t', id, w⟩ = View.pixelSize ⟨t, id, w⟩ :=
    h.pixelSize_congr halign hdisplay hsame
  rw [h'.origin_eq hget', h.origin_eq hget, houter]
  unfold View.originAt
  rw [hsize]

theorem outerRect_congr (h : t.Lineage id l) : (∀ a ∈ l, t'.get? a = t.get? a) → ∀ {w},
    t.get? id = some w → View.outerRect ⟨t', id, w⟩ = View.outerRect ⟨t, id, w⟩ := by
  induction h with
  | root hw hparent =>
    intro _ w hget
    rw [hget] at hw
    cases hw
    unfold View.outerRect
    rw [t.parent?_of_root _ hparent, t'.parent?_of_root _ hparent]
    simp only [View.displayRect, hdisplay]
  | @child id p v l hw hparent hl ih =>
    intro hsame w hget
    rw [hget] at hw
    cases hw
    have habove : ∀ a ∈ l, t'.get? a = t.get? a := fun a ha => hsame a (List.mem_cons_of_mem _ ha)
    obtain ⟨wp, hp⟩ := Option.isSome_iff_exists.1 hl.isSome
    have hp' : t'.get? p = some wp := (habove p (hl.mem_iff.2 (.refl t p))).trans hp
    have hsize : View.pixelSize ⟨t', p, wp⟩ = View.pixelSize ⟨t, p, wp⟩ :=
      hl.pixelSize_congr halign hdisplay habove
    have horigin := hl.origin_congr_of_outerRect halign hdisplay habove hp (ih habove hp)
    unfold View.outerRect
    rw [parent?_of_child id hparent hp, parent?_of_child id hparent hp']
    simp only [View.screenRect, hsize, horigin]

end Congr

end Lineage

end Tree

/-- Two widgets are in one place on screen and have one size. -/
structure View.SamePlace (v v' : View) : Prop where
  pixelSize : v'.pixelSize = v.pixelSize
  origin : v'.origin = v.origin
  screenRect : v'.screenRect = v.screenRect

/-- **A place depends on the display and on the widgets above, and on nothing else.** -/
theorem Tree.WellFormed.samePlace {t t' : Tree} {id : WidgetId} {w : Widget} (h : t.WellFormed)
    (halign : t'.alignPixels = t.alignPixels)
    (hdisplay : t'.resources.display = t.resources.display) (hget : t.get? id = some w)
    (hsame : ∀ a, t.Above a id → t'.get? a = t.get? a) :
    View.SamePlace ⟨t, id, w⟩ ⟨t', id, w⟩ := by
  obtain ⟨l, hl⟩ := h.lineage hget
  have habove : ∀ a ∈ l, t'.get? a = t.get? a := fun a ha => hsame a (hl.mem_iff.1 ha)
  have hsize : View.pixelSize ⟨t', id, w⟩ = View.pixelSize ⟨t, id, w⟩ :=
    h.pixelSize_congr halign hdisplay hsame
  have horigin : View.origin ⟨t', id, w⟩ = View.origin ⟨t, id, w⟩ :=
    hl.origin_congr_of_outerRect halign hdisplay habove hget
      (hl.outerRect_congr halign hdisplay habove hget)
  refine ⟨hsize, horigin, ?_⟩
  unfold View.screenRect
  rw [hsize, horigin]

end SkinLayout
