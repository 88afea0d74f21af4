import Mathlib.Data.List.Forall2
import SkinLayout.Proofs.Dimension.Areas
import SkinLayout.Proofs.Dimension.Nesting
/-!
# Levels of an area

An area is the first level of nesting, and its dimensions start on the second.  The reader compares
a level with the limit where it reads a dimension, so the limit is exact for every area that has one
(`Area.levels_exact`).  It is not looked at for the area itself: an area without dimensions has a
level and is read where none is allowed (`Area.bareArea_below_limit`).
-/
namespace SkinLayout

open Outcome (result_bind_eq_ok)

/-! ## Dimensions -/

/-- The dimension is what an element is read as, under a limit that allows it. -/
def Dimension.ReadFrom (e : Element) (d : Dimension) : Prop :=
  ∃ limit, (Dimension.read limit e).result = .ok d

theorem Dimension.readFrom_rightUnique : Relator.RightUnique Dimension.ReadFrom := by
  rintro e d d' ⟨limit, hd⟩ ⟨limit', hd'⟩
  have hread := Dimension.result_readAt_of_ok hd limit' 0
  rw [← Dimension.read, hd'] at hread
  split at hread
  · exact (Except.ok.inj hread).symm
  · cases hread

namespace Area

variable {a b : Area} {limit : Nat} {e : Element} {es : List Element} {ds : List Dimension}

/-- All children but the names of properties. -/
def dimensionElements (es : List Element) : List Element :=
  es.filter fun e => e.name ≠ "AreaProperty"

/-- Levels of an area that is read from these dimensions: its own, and those of the highest of them
below it. -/
def levels : List Dimension → Nat
  | [] => 1
  | d :: ds => max (1 + d.height) (levels ds)

/-- The level of the area itself is allowed by every limit. -/
theorem levels_le_iff : levels ds ≤ max 1 limit ↔ ∀ d ∈ ds, 1 + d.height ≤ limit := by
  induction ds with
  | nil =>
    rw [levels]
    exact iff_of_true (Nat.le_max_left 1 limit) (List.forall_mem_nil _)
  | cons d ds ih =>
    have hheight : 1 + d.height ≤ max 1 limit ↔ 1 + d.height ≤ limit := by
      unfold Dimension.height
      omega
    rw [levels, Nat.max_le, ih, hheight, List.forall_mem_cons]

/-- Children that were read are read again under every limit that their heights allow. -/
theorem exists_dimensions (h : (readChildren limit a es).result = .ok b) :
    ∃ ds, List.Forall₂ Dimension.ReadFrom (dimensionElements es) ds ∧
      ∀ k, (readChildren k a es).result =
        if ∀ d ∈ ds, 1 + d.height ≤ k then .ok b else .error (.nestingTooDeep k) := by
  induction es generalizing a with
  | nil =>
    cases h
    exact ⟨[], .nil, fun k => by rw [if_pos (List.forall_mem_nil _)]; rfl⟩
  | cons e es ih =>
    rw [readChildren] at h
    obtain ⟨a', hchild, hrest⟩ := result_bind_eq_ok.1 h
    obtain ⟨ds, hds, hread⟩ := ih hrest
    rcases readChild_cases hchild with ⟨hname, name, hrequired, rfl⟩ | ⟨hname, d, hd, hplace⟩
    · -- the name of a property is read under every limit
      refine ⟨ds, ?_, fun k => ?_⟩
      · rw [dimensionElements, List.filter_cons_of_neg (by simpa using hname)]
        exact hds
      · have hproperty : (a.readChild k e).result = .ok { a with property := some name } := by
          unfold readChild
          rw [if_pos hname, Outcome.result_bind, Outcome.result_ofExcept, hrequired]
          rfl
        rw [readChildren, Outcome.result_bind, hproperty, Outcome.ok_bind, hread]
    · have hread' := Dimension.result_readAt_of_ok hd
      have hfrom : Dimension.ReadFrom e d :=
        ⟨d.height, (hread' d.height 0).trans (if_pos (Nat.zero_add _).le)⟩
      refine ⟨d :: ds, ?_, fun k => ?_⟩
      · rw [dimensionElements, List.filter_cons_of_pos (by simpa using hname)]
        exact .cons hfrom hds
      · rw [readChildren, Outcome.result_bind, result_readChild_of hname (hread' k 1) hplace]
        by_cases hfit : 1 + d.height ≤ k
        · rw [if_pos hfit, Outcome.ok_bind, hread]
          simp only [List.forall_mem_cons, hfit, true_and]
        · rw [if_neg hfit, Outcome.error_bind, if_neg fun hall => hfit (hall d List.mem_cons_self)]

/-- **The limit is exact for an area, its own level apart.**  All dimensions of an area that is read
are read, and the area is read under every other limit that the levels allow, and too deep under
every other.  Its own level is never too deep. -/
theorem levels_exact (h : (read limit e).result = .ok a) :
    (∃ ds, List.Forall₂ Dimension.ReadFrom (dimensionElements e.children) ds) ∧
    ∀ ds, List.Forall₂ Dimension.ReadFrom (dimensionElements e.children) ds → ∀ d,
      (read d e).result =
        if levels ds ≤ max 1 d then .ok a else .error (.nestingTooDeep d) := by
  unfold read at h ⊢
  obtain ⟨_, hname, hchildren⟩ := result_bind_eq_ok.1 h
  obtain ⟨ds, hds, hread⟩ := exists_dimensions hchildren
  refine ⟨⟨ds, hds⟩, fun ds' hds' d => ?_⟩
  obtain rfl := Dimension.readFrom_rightUnique.forall₂ hds hds'
  rw [Outcome.result_bind, hname, Outcome.ok_bind, hread]
  exact if_congr levels_le_iff.symm rfl rfl

/-- An area that names nothing. -/
def bareArea : Element := ⟨"Area", [], []⟩

/-- It has a level and is read where none is allowed. -/
theorem bareArea_below_limit : (read 0 bareArea).result = .ok whole ∧
    List.Forall₂ Dimension.ReadFrom (dimensionElements bareArea.children) [] ∧
    ¬ levels [] ≤ 0 ∧ (read 0 bareArea).result ≠ .error (.nestingTooDeep 0) :=
  ⟨rfl, .nil, by decide, fun h => by cases h⟩

/-- An area with a property and two widths, of which the one that is replaced is the higher. -/
def twoWidths : Element :=
  ⟨"Area", [], [widthDim nestedSum, ⟨"AreaProperty", [("name", "frame")], []⟩,
    widthDim ⟨"WidgetDim", [("dimension", "Width")], []⟩]⟩

/-- The width that is replaced counts: four levels are needed. -/
theorem levels_exact_twoWidths :
    let a : Area :=
      { whole with right := ⟨.width, .widget ⟨none, .width⟩⟩, property := some "frame" }
    (read 9 twoWidths).result = .ok a ∧ (read 4 twoWidths).result = .ok a ∧
    (read 3 twoWidths).result = .error (.nestingTooDeep 3) ∧
    (read 0 twoWidths).result = .error (.nestingTooDeep 0) := by
  intro a
  have hread : (read 9 twoWidths).result = .ok a := rfl
  have hds : List.Forall₂ Dimension.ReadFrom (dimensionElements twoWidths.children)
      [⟨.width, .operation .add (some (.widget ⟨none, .width⟩))
        (some (.operation .noop none none))⟩, ⟨.width, .widget ⟨none, .width⟩⟩] :=
    .cons ⟨9, rfl⟩ (.cons ⟨9, rfl⟩ .nil)
  have hexact := (levels_exact hread).2 _ hds
  exact ⟨hread, hexact 4, hexact 3, hexact 0⟩

end Area

end SkinLayout
