import SkinLayout.Proofs.Number.Pixels
import SkinLayout.Proofs.Widget.Building
import SkinLayout.Proofs.Widget.Places
/-!
# Widgets side by side

Where one widget ends its neighbour may start: the far edge of one area is the near edge of the
other, as unified lengths.  On screen the two need not meet.  A widget starts at the nearest whole
pixel and has a whole number of pixels, but the two are rounded apart, and the sum is not what the
edge itself is rounded to (`columns_gap`).  What holds is that a gap or an overlap is one pixel at
most, and that there is none behind a widget that starts on a whole pixel of the display
(`adjacent_within_pixel`).
-/
namespace SkinLayout

/-! ## Along one axis -/

namespace Axis

def coordinate {α : Type} : Axis → Point α → α
  | .horizontal, p => p.x
  | .vertical, p => p.y

def near : Axis → Rect → Float32
  | .horizontal, r => r.x
  | .vertical, r => r.y

def far : Axis → Rect → Float32
  | .horizontal, r => r.right
  | .vertical, r => r.bottom

theorem near_ofSize (axis : Axis) (p : Point Float32) (s : Size Float32) :
    axis.near (.ofSize p s) = axis.coordinate p := by
  cases axis <;> rfl

theorem far_ofSize (axis : Axis) (p : Point Float32) (s : Size Float32) :
    axis.far (.ofSize p s) = axis.coordinate p + axis.extent s := by
  cases axis <;> rfl

end Axis

def Widget.alignment (w : Widget) : Axis → Alignment
  | .horizontal => w.horizontal
  | .vertical => w.vertical

namespace View

/-- A length in the rectangle around a widget, before anything is rounded to pixels. -/
def lengthAlong (axis : Axis) (v : View) (u : Unified) : Float32 :=
  u.toPixels false (axis.extent v.outerRect.size)

/-- The place on screen that a length in the rectangle around a widget stands for. -/
def placeAlong (axis : Axis) (v : View) (u : Unified) : Float32 :=
  axis.near v.outerRect + v.lengthAlong axis u

def startAlong (axis : Axis) (v : View) : Float32 :=
  v.placeAlong axis (axis.coordinate v.widget.area.min)

def stopAlong (axis : Axis) (v : View) : Float32 :=
  v.placeAlong axis (axis.coordinate v.widget.area.max)

def extentAlong (axis : Axis) (v : View) : Float32 :=
  v.lengthAlong axis (axis.extent v.widget.area.size)

end View

namespace Tree

variable {t : Tree} {id id' : WidgetId} {w w' : Widget} {l : List WidgetId}

/-- Siblings are in one rectangle. -/
theorem outerRect_of_siblings (t : Tree) (id id' : WidgetId) (h : w'.parent = w.parent) :
    View.outerRect ⟨t, id', w'⟩ = View.outerRect ⟨t, id, w⟩ := by
  unfold View.outerRect View.parent? View.displayRect
  simp only [h]

/-- The rectangle around a widget has the size that its area is relative to. -/
theorem Lineage.size_outerRect (h : t.Lineage id l) (hget : t.get? id = some w) :
    (View.outerRect ⟨t, id, w⟩).size = t.baseSize w := by
  unfold View.outerRect baseSize
  cases h with
  | root hget' hparent =>
    rw [hget] at hget'
    cases hget'
    rw [t.parent?_of_root id hparent]
    simp only [hparent]
    rfl
  | child hget' hparent hl =>
    rw [hget] at hget'
    cases hget'
    obtain ⟨wp, hp⟩ := Option.isSome_iff_exists.1 hl.isSome
    rw [parent?_of_child id hparent hp]
    simp only [hparent]
    rfl

/-- A size is the extent of the area, rounded. -/
theorem Lineage.extent_pixelSize (h : t.Lineage id l) (hget : t.get? id = some w)
    (halign : t.alignPixels = true) (axis : Axis) :
    axis.extent (t.pixelSize id) = Single.roundHalfAway (View.extentAlong axis ⟨t, id, w⟩) := by
  rw [h.pixelSize_eq hget, halign, View.extentAlong, View.lengthAlong, h.size_outerRect hget]
  cases axis <;> rfl

/-- A place is the start of the area, rounded. -/
theorem Lineage.coordinate_origin (h : t.Lineage id l) (hget : t.get? id = some w) {axis : Axis}
    (hleading : w.alignment axis = .leading) :
    axis.coordinate (View.origin ⟨t, id, w⟩) =
      Single.roundHalfAway (View.startAlong axis ⟨t, id, w⟩ + 0) := by
  rw [h.origin_eq hget, View.originAt, View.startAlong, View.placeAlong, View.lengthAlong]
  cases axis with
  | horizontal =>
    have hw : w.horizontal = .leading := hleading
    simp only [originIn, Axis.coordinate, hw, Alignment.correction]
    rfl
  | vertical =>
    have hw : w.vertical = .leading := hleading
    simp only [originIn, Axis.coordinate, hw, Alignment.correction]
    rfl

end Tree

/-! ## Edges on screen -/

open Single (IsFinite Moderate nearestPixel pixel units)

/-- The lengths of a widget along an axis are numbers that rounding to pixels can tell apart, and
the extent of its area is the distance of its edges, but for less than half a pixel. -/
structure View.Settled (axis : Axis) (v : View) : Prop where
  start : Moderate (v.startAlong axis)
  stop : Moderate (v.stopAlong axis)
  extent : IsFinite (v.extentAlong axis)
  close : 2 * (units (v.extentAlong axis) -
    (units (v.stopAlong axis) - units (v.startAlong axis))).natAbs < pixel

/-- The near edge of a widget is its start, rounded. -/
theorem Tree.Lineage.near_screenRect {t : Tree} {id : WidgetId} {w : Widget} {l : List WidgetId}
    (h : t.Lineage id l) (hget : t.get? id = some w) {axis : Axis}
    (hleading : w.alignment axis = .leading) (hstart : Moderate (View.startAlong axis ⟨t, id, w⟩)) :
    IsFinite (axis.near (View.screenRect ⟨t, id, w⟩)) ∧
      units (axis.near (View.screenRect ⟨t, id, w⟩)) =
        nearestPixel (units (View.startAlong axis ⟨t, id, w⟩)) * pixel := by
  obtain ⟨hfinite, hsame⟩ := Single.units_add_zero hstart.isFinite
  have hsmall := hstart.small
  rw [View.screenRect, axis.near_ofSize, h.coordinate_origin hget hleading, ← hsame]
  refine Single.units_roundHalfAway hfinite ?_
  rw [hsame]
  unfold pixel at *
  omega

/-- The far edge of a widget is its start and its extent, each rounded by itself. -/
theorem Tree.Lineage.far_screenRect {t : Tree} {id : WidgetId} {w : Widget} {l : List WidgetId}
    (h : t.Lineage id l) (hget : t.get? id = some w) (halign : t.alignPixels = true) {axis : Axis}
    (hleading : w.alignment axis = .leading) (hsettled : View.Settled axis ⟨t, id, w⟩) :
    IsFinite (axis.far (View.screenRect ⟨t, id, w⟩)) ∧
      units (axis.far (View.screenRect ⟨t, id, w⟩)) =
        (nearestPixel (units (View.startAlong axis ⟨t, id, w⟩)) +
          nearestPixel (units (View.extentAlong axis ⟨t, id, w⟩))) * pixel := by
  obtain ⟨hstart, hstop, hextent, hclose⟩ := hsettled
  obtain ⟨hnear, hnearUnits⟩ := h.near_screenRect hget hleading hstart
  have hround := Single.nearestPixel_add_near hclose
  have hstopNear := Single.nearestPixel_near (units (View.stopAlong axis ⟨t, id, w⟩))
  have hstartSmall := hstart.small
  have hstopSmall := hstop.small
  obtain ⟨hwide, hwideUnits⟩ := Single.units_roundHalfAway hextent (by unfold pixel at *; omega)
  rw [View.screenRect, axis.near_ofSize] at hnear hnearUnits
  rw [View.screenRect, axis.far_ofSize, View.pixelSize, h.extent_pixelSize hget halign]
  refine Single.units_add_pixels hnear hwide hnearUnits hwideUnits ?_
  unfold pixel at *
  omega

/-- **Widgets side by side are at most a pixel apart**, if the arithmetic before the rounding loses
less than half a pixel: the far edge of the first is its start and its extent, each rounded, and the
near edge of the second is where the first stops, rounded at once.  They meet if nothing is lost and
the first one starts on a whole pixel of the display and has no negative extent. -/
theorem adjacent_within_pixel {t : Tree} (h : t.WellFormed) (halign : t.alignPixels = true)
    {id id' : WidgetId} {w w' : Widget} (hget : t.get? id = some w) (hget' : t.get? id' = some w')
    (hparent : w'.parent = w.parent) (axis : Axis) (hleading : w.alignment axis = .leading)
    (hleading' : w'.alignment axis = .leading)
    (hmeet : axis.coordinate w.area.max = axis.coordinate w'.area.min)
    (hsettled : View.Settled axis ⟨t, id, w⟩) :
    units (axis.far (View.screenRect ⟨t, id, w⟩)) =
        (nearestPixel (units (View.startAlong axis ⟨t, id, w⟩)) +
          nearestPixel (units (View.extentAlong axis ⟨t, id, w⟩))) * pixel ∧
      units (axis.near (View.screenRect ⟨t, id', w'⟩)) =
        nearestPixel (units (View.stopAlong axis ⟨t, id, w⟩)) * pixel ∧
      (units (axis.far (View.screenRect ⟨t, id, w⟩)) -
        units (axis.near (View.screenRect ⟨t, id', w'⟩))).natAbs ≤ pixel ∧
      ∀ p : Int, 0 ≤ p → units (View.startAlong axis ⟨t, id, w⟩) = p * pixel →
        0 ≤ units (View.extentAlong axis ⟨t, id, w⟩) →
        units (View.stopAlong axis ⟨t, id, w⟩) = units (View.startAlong axis ⟨t, id, w⟩) +
          units (View.extentAlong axis ⟨t, id, w⟩) →
        (axis.far (View.screenRect ⟨t, id, w⟩) == axis.near (View.screenRect ⟨t, id', w'⟩)) =
          true := by
  obtain ⟨l, hl⟩ := h.lineage hget
  obtain ⟨l', hl'⟩ := h.lineage hget'
  have hedge : View.startAlong axis ⟨t, id', w'⟩ = View.stopAlong axis ⟨t, id, w⟩ := by
    unfold View.startAlong View.stopAlong View.placeAlong View.lengthAlong
    rw [t.outerRect_of_siblings id id' hparent, hmeet]
  obtain ⟨hfar, hfarUnits⟩ := hl.far_screenRect hget halign hleading hsettled
  obtain ⟨hnear, hnearUnits⟩ := hl'.near_screenRect hget' hleading' (hedge ▸ hsettled.stop)
  rw [hedge] at hnearUnits
  refine ⟨hfarUnits, hnearUnits, ?_, ?_⟩
  · have hround := Single.nearestPixel_add_near hsettled.close
    rw [hfarUnits, hnearUnits]
    unfold pixel
    omega
  · intro p hp hstart hextent hstop
    refine Single.beq_of_units_eq hfar hnear ?_
    rw [hfarUnits, hnearUnits, hstop, hstart, Single.nearestPixel_add hp hextent]

/-! ## Three columns -/

def column (left right : Float32) : Widget :=
  { Widget.named "column" with area := .ofEdges ⟨left, 0⟩ .zero ⟨right, 0⟩ .full }

theorem column_leading (left right : Float32) (axis : Axis) :
    (column left right).alignment axis = .leading := by
  cases axis <;> rfl

theorem column_parent (left right : Float32) : (column left right).parent = none := rfl

/-- A display of a hundred pixels, cut into three. -/
def columns : Tree :=
  (((Tree.ofResources (.ofDisplay ⟨100, 100⟩)).addRoot 1 (column 0 (1 / 3))).addRoot 2
    (column (1 / 3) (2 / 3))).addRoot 3 (column (2 / 3) 1)

theorem columns_wellFormed : columns.WellFormed :=
  (Tree.Built.addRoot (.addRoot (.addRoot (.ofResources _) rfl _) rfl _) rfl _).wellFormed

/-- Between the second and the third column a pixel is left. -/
theorem columns_gap : columns.WellFormed ∧ columns.alignPixels = true ∧
    ∃ w w', columns.get? 2 = some w ∧ columns.get? 3 = some w' ∧ w.parent = none ∧
      w'.parent = none ∧ w.horizontal = .leading ∧ w'.horizontal = .leading ∧
      w.area.max.x = w'.area.min.x ∧ (View.screenRect ⟨columns, 2, w⟩).right = 66 ∧
      (View.screenRect ⟨columns, 3, w'⟩).x = 67 :=
  ⟨columns_wellFormed, rfl, column (1 / 3) (2 / 3), column (2 / 3) 1, rfl, rfl, rfl, rfl, rfl, rfl,
    rfl, by decide +kernel, by decide +kernel⟩

/-- The first column starts on a whole pixel and meets the second; from there it is a pixel. -/
theorem columns_apart : ∃ w₁ w₂ w₃, columns.get? 1 = some w₁ ∧ columns.get? 2 = some w₂ ∧
    columns.get? 3 = some w₃ ∧ View.Settled .horizontal ⟨columns, 1, w₁⟩ ∧
    View.Settled .horizontal ⟨columns, 2, w₂⟩ ∧
    ((View.screenRect ⟨columns, 1, w₁⟩).right == (View.screenRect ⟨columns, 2, w₂⟩).x) = true ∧
    (units (View.screenRect ⟨columns, 2, w₂⟩).right -
      units (View.screenRect ⟨columns, 3, w₃⟩).x).natAbs ≤ pixel := by
  have hfirst : View.Settled .horizontal ⟨columns, 1, column 0 (1 / 3)⟩ :=
    ⟨⟨by decide +kernel, by decide +kernel⟩, ⟨by decide +kernel, by decide +kernel⟩,
      by decide +kernel, by decide +kernel⟩
  have hsecond : View.Settled .horizontal ⟨columns, 2, column (1 / 3) (2 / 3)⟩ :=
    ⟨⟨by decide +kernel, by decide +kernel⟩, ⟨by decide +kernel, by decide +kernel⟩,
      by decide +kernel, by decide +kernel⟩
  have hget₁ : columns.get? 1 = some (column 0 (1 / 3)) := rfl
  have hget₂ : columns.get? 2 = some (column (1 / 3) (2 / 3)) := rfl
  have hget₃ : columns.get? 3 = some (column (2 / 3) 1) := rfl
  have hleft := column_leading (1 / 3) (2 / 3) .horizontal
  have hmeet := (adjacent_within_pixel columns_wellFormed rfl hget₁ hget₂ (column_parent _ _)
    .horizontal (column_leading 0 (1 / 3) .horizontal) hleft rfl hfirst).2.2.2
  have hapart := (adjacent_within_pixel columns_wellFormed rfl hget₂ hget₃ (column_parent _ _)
    .horizontal hleft (column_leading (2 / 3) 1 .horizontal) rfl hsecond).2.2.1
  have htouch := hmeet 0 (by decide) (by decide +kernel) (by decide +kernel) (by decide +kernel)
  exact ⟨_, _, _, hget₁, hget₂, hget₃, hfirst, hsecond, htouch, hapart⟩

end SkinLayout
