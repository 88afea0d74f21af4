import SkinLayout.Proofs.Widget.Lineage
/-!
# Sizes come from above

The size of a widget comes from a walk up its parents.  Without a bound the walk is a relation
(`Tree.Sized`), and a derivation is one that came to its end.  `Tree.pixelSize?` keeps to a bound,
and there is a size exactly where the other walk ends (`pixelSize?_eq_some_iff`), because one that
ends meets no widget twice.  Along a lineage a walk ends, so the size of such a widget is its own
area in the size of its parent (`Lineage.pixelSize_eq`), and it depends on nothing but the widgets
above it and the display.
-/
namespace SkinLayout
namespace Tree

variable {t t' : Tree} {id a p : WidgetId} {w : Widget} {l : List WidgetId} {s s' : Size Float32}

theorem view?_eq_some_iff {v : View} :
    t.view? id = some v ↔ ∃ w, t.get? id = some w ∧ v = ⟨t, id, w⟩ := by
  unfold view?
  rw [Option.map_eq_some_iff]
  simp only [eq_comm]

/-! ## Walks without a bound -/

/-- The walk up from a widget ends, and gives this size. -/
inductive Sized (t : Tree) : WidgetId → Size Float32 → Prop
  | absent {id : WidgetId} (hget : t.get? id = none) : Sized t id ⟨0, 0⟩
  | root {id : WidgetId} {w : Widget} (hget : t.get? id = some w) (hparent : w.parent = none) :
    Sized t id (w.area.size.toPixels t.alignPixels t.resources.display)
  | child {id p : WidgetId} {w : Widget} {s : Size Float32} (hget : t.get? id = some w)
    (hparent : w.parent = some p) (hs : Sized t p s) :
    Sized t id (w.area.size.toPixels t.alignPixels s)

theorem Sized.unique (h : t.Sized id s) : t.Sized id s' → s = s' := by
  induction h generalizing s' with
  | absent hget =>
    rintro (hget' | ⟨hget', _⟩ | ⟨hget', _, _⟩)
    · rfl
    all_goals rw [hget] at hget'; cases hget'
  | root hget hparent =>
    rintro (hget' | ⟨hget', _⟩ | ⟨hget', hparent', _⟩) <;> rw [hget] at hget' <;> cases hget'
    · rfl
    · rw [hparent] at hparent'; cases hparent'
  | child hget hparent _ ih =>
    rintro (hget' | ⟨hget', hparent'⟩ | ⟨hget', hparent', hs'⟩) <;> rw [hget] at hget' <;>
      cases hget' <;> rw [hparent] at hparent' <;> cases hparent'
    rw [ih hs']

/-! ## Walks within a bound -/

theorem pixelSizeWith?_absent (n : Nat) (hget : t.get? id = none) :
    t.pixelSizeWith? (n + 1) id = some ⟨0, 0⟩ := by
  rw [pixelSizeWith?, hget]

theorem pixelSizeWith?_root (n : Nat) (hget : t.get? id = some w) (hparent : w.parent = none) :
    t.pixelSizeWith? (n + 1) id =
      some (w.area.size.toPixels t.alignPixels t.resources.display) := by
  rw [pixelSizeWith?, hget]
  simp only [hparent, Option.map_some]

theorem pixelSizeWith?_child (n : Nat) (hget : t.get? id = some w) (hparent : w.parent = some p) :
    t.pixelSizeWith? (n + 1) id =
      (t.pixelSizeWith? n p).map (w.area.size.toPixels t.alignPixels) := by
  rw [pixelSizeWith?, hget]
  simp only [hparent]

theorem sized_of_pixelSizeWith? {n : Nat} (h : t.pixelSizeWith? n id = some s) : t.Sized id s := by
  induction n generalizing id s with
  | zero => cases h
  | succ n ih =>
    cases hget : t.get? id with
    | none =>
      rw [pixelSizeWith?_absent n hget] at h
      cases h
      exact .absent hget
    | some w =>
      cases hparent : w.parent with
      | none =>
        rw [pixelSizeWith?_root n hget hparent] at h
        cases h
        exact .root hget hparent
      | some p =>
        rw [pixelSizeWith?_child n hget hparent] at h
        obtain ⟨s, hs, rfl⟩ := Option.map_eq_some_iff.1 h
        exact .child hget hparent (ih hs)

/-- A walk that ends within a bound ends within the next. -/
theorem pixelSizeWith?_succ {n : Nat} (h : t.pixelSizeWith? n id = some s) :
    t.pixelSizeWith? (n + 1) id = some s := by
  induction n generalizing id s with
  | zero => cases h
  | succ n ih =>
    cases hget : t.get? id with
    | none => rwa [pixelSizeWith?_absent _ hget] at h ⊢
    | some w =>
      cases hparent : w.parent with
      | none => rwa [pixelSizeWith?_root _ hget hparent] at h ⊢
      | some p =>
        rw [pixelSizeWith?_child _ hget hparent] at h ⊢
        obtain ⟨s, hs, rfl⟩ := Option.map_eq_some_iff.1 h
        rw [ih hs, Option.map_some]

theorem pixelSizeWith?_mono {n m : Nat} (hle : n ≤ m) (h : t.pixelSizeWith? n id = some s) :
    t.pixelSizeWith? m id = some s := by
  obtain ⟨k, rfl⟩ := Nat.exists_eq_add_of_le hle
  induction k with
  | zero => exact h
  | succ k ih => exact pixelSizeWith?_succ (ih (Nat.le_add_right n k))

/-- The widgets that a walk goes through before its last one.  One step less does not lead from the
first of them to the end, but from the others it does, so the first is none of the others. -/
theorem Sized.exists_walk (h : t.Sized id s) : ∃ l : List WidgetId, l.Nodup ∧
    (∀ a ∈ l, (t.get? a).isSome ∧ (t.pixelSizeWith? (l.length + 1) a).isSome) ∧
    t.pixelSizeWith? l.length id = none ∧ t.pixelSizeWith? (l.length + 1) id = some s := by
  induction h with
  | absent hget =>
    refine ⟨[], List.nodup_nil, fun a ha => absurd ha List.not_mem_nil, rfl, ?_⟩
    exact pixelSizeWith?_absent 0 hget
  | root hget hparent =>
    refine ⟨[], List.nodup_nil, fun a ha => absurd ha List.not_mem_nil, rfl, ?_⟩
    exact pixelSizeWith?_root 0 hget hparent
  | @child id p w s hget hparent _ ih =>
    obtain ⟨l, hnodup, hends, hshort, hlong⟩ := ih
    have hshort' : t.pixelSizeWith? (l.length + 1) id = none := by
      rw [pixelSizeWith?_child _ hget hparent, hshort, Option.map_none]
    have hlong' : t.pixelSizeWith? (l.length + 2) id =
        some (w.area.size.toPixels t.alignPixels s) := by
      rw [pixelSizeWith?_child _ hget hparent, hlong, Option.map_some]
    refine ⟨id :: l, List.nodup_cons.2 ⟨fun hmem => ?_, hnodup⟩, fun a ha => ?_, hshort', hlong'⟩
    · have hid := (hends id hmem).2
      rw [hshort'] at hid
      cases hid
    · rcases List.mem_cons.1 ha with rfl | ha
      · exact ⟨by rw [hget]; rfl, by rw [List.length_cons, hlong']; rfl⟩
      · obtain ⟨hthere, hend⟩ := hends a ha
        obtain ⟨s', hs'⟩ := Option.isSome_iff_exists.1 hend
        exact ⟨hthere, by rw [List.length_cons, pixelSizeWith?_succ hs']; rfl⟩

/-- **A widget has a size exactly if the walk up its parents ends**, and it is the size that the
walk gives. -/
theorem pixelSize?_eq_some_iff : t.pixelSize? id = some s ↔ t.Sized id s := by
  constructor
  · exact sized_of_pixelSizeWith?
  · intro h
    obtain ⟨l, hnodup, hends, -, hlong⟩ := h.exists_walk
    have hlength : l.length ≤ t.widgets.size :=
      Table.length_le_size hnodup fun a ha => (hends a ha).1
    exact pixelSizeWith?_mono (Nat.succ_le_succ hlength) hlong

theorem isSome_pixelSize?_iff : (t.pixelSize? id).isSome ↔ ∃ s, t.Sized id s := by
  rw [Option.isSome_iff_exists]
  simp only [pixelSize?_eq_some_iff]

theorem Sized.pixelSize_eq (h : t.Sized id s) : t.pixelSize id = s := by
  rw [pixelSize, pixelSize?_eq_some_iff.2 h, Option.getD_some]

/-! ## Sizes of widgets with a lineage -/

/-- The size that the area of a widget is relative to. -/
def baseSize (t : Tree) (w : Widget) : Size Float32 :=
  match w.parent with
  | none => t.resources.display
  | some p => t.pixelSize p

theorem pixelSize_of_absent (hget : t.get? id = none) : t.pixelSize id = ⟨0, 0⟩ :=
  (Sized.absent hget).pixelSize_eq

namespace Lineage

theorem sized (h : t.Lineage id l) : t.Sized id (t.pixelSize id) := by
  suffices ∃ s, t.Sized id s by
    obtain ⟨s, hs⟩ := this
    rwa [hs.pixelSize_eq]
  induction h with
  | root hget hparent => exact ⟨_, .root hget hparent⟩
  | child hget hparent _ ih =>
    obtain ⟨s, hs⟩ := ih
    exact ⟨_, .child hget hparent hs⟩

/-- **A size is the widget's area in the size above it.** -/
theorem pixelSize_eq (h : t.Lineage id l) (hget : t.get? id = some w) :
    t.pixelSize id = w.area.size.toPixels t.alignPixels (t.baseSize w) := by
  unfold baseSize
  cases h with
  | root hget' hparent =>
    rw [hget] at hget'; cases hget'
    rw [hparent]
    exact (Sized.root hget hparent).pixelSize_eq
  | child hget' hparent hl =>
    rw [hget] at hget'; cases hget'
    rw [hparent]
    exact (Sized.child hget hparent hl.sized).pixelSize_eq

theorem pixelSize_congr (h : t.Lineage id l) (halign : t'.alignPixels = t.alignPixels)
    (hdisplay : t'.resources.display = t.resources.display)
    (hsame : ∀ a ∈ l, t'.get? a = t.get? a) : t'.pixelSize id = t.pixelSize id := by
  have h' : t'.Lineage id l := h.congr fun a ha => congrArg _ (hsame a ha)
  induction h with
  | root hget hparent =>
    have hget' := (hsame _ (List.mem_singleton_self _)).trans hget
    rw [h'.pixelSize_eq hget', (Lineage.root hget hparent).pixelSize_eq hget, halign, baseSize,
      baseSize]
    simp only [hparent, hdisplay]
  | child hget hparent hl ih =>
    have hget' := (hsame _ List.mem_cons_self).trans hget
    have habove := fun a ha => hsame a (List.mem_cons_of_mem _ ha)
    rw [h'.pixelSize_eq hget', (Lineage.child hget hparent hl).pixelSize_eq hget, halign, baseSize,
      baseSize]
    simp only [hparent]
    rw [ih habove (hl.congr fun a ha => congrArg _ (habove a ha))]

end Lineage

namespace WellFormed

theorem sized (h : t.WellFormed) (id : WidgetId) : t.Sized id (t.pixelSize id) := by
  cases hget : t.get? id with
  | none =>
    rw [pixelSize_of_absent hget]
    exact .absent hget
  | some w =>
    obtain ⟨l, hl⟩ := h.lineage hget
    exact hl.sized

/-- **A size depends on the display and on the widgets above, and on nothing else.** -/
theorem pixelSize_congr (h : t.WellFormed) (halign : t'.alignPixels = t.alignPixels)
    (hdisplay : t'.resources.display = t.resources.display)
    (hsame : ∀ a, t.Above a id → t'.get? a = t.get? a) : t'.pixelSize id = t.pixelSize id := by
  cases hget : t.get? id with
  | none =>
    have hget' := (hsame id (.refl t id)).trans hget
    rw [pixelSize_of_absent hget, pixelSize_of_absent hget']
  | some w =>
    obtain ⟨l, hl⟩ := h.lineage hget
    exact hl.pixelSize_congr halign hdisplay fun a ha => hsame a (hl.mem_iff.1 ha)

theorem baseSize_congr (h : t.WellFormed) (halign : t'.alignPixels = t.alignPixels)
    (hdisplay : t'.resources.display = t.resources.display) (hget : t.get? id = some w)
    (hsame : ∀ a, t.Above a id → t'.get? a = t.get? a) : t'.baseSize w = t.baseSize w := by
  unfold baseSize
  cases hparent : w.parent with
  | none => exact hdisplay
  | some p =>
    have hp : t.parentOf id = some p := (parentOf_of_get? hget).trans hparent
    exact h.pixelSize_congr halign hdisplay fun a ha => hsame a (ha.trans (above_of_parentOf hp))

end WellFormed

end Tree

end SkinLayout
