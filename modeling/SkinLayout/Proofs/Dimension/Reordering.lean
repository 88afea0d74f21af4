import Mathlib.Data.List.Perm.Basic
import SkinLayout.Proofs.Dimension.Areas
/-!
# The order of the children of an area

What a child of an area is read as does not depend on the children before it (`Area.readChild_iff`):
it sets the name of the property or one side, and settings of different things commute.  So if no
two children set the same, they can stand in any order (`Area.order_immaterial`).
-/
namespace SkinLayout

open Outcome (result_bind_eq_ok)

inductive Side where
  | left
  | top
  | right
  | bottom
  deriving DecidableEq

/-- The side on which a dimension of this role is put. -/
def Role.side? : Role → Option Side
  | .leftEdge => some .left
  | .topEdge => some .top
  | .rightEdge | .width => some .right
  | .bottomEdge | .height => some .bottom
  | .xOffset | .yOffset | .invalid => none

/-- The side that a child of an area sets: that of the role it names.  The name of a property sets
none. -/
def Element.side? (e : Element) : Option Side :=
  if e.name = "AreaProperty" then none else (e.role "type").result.toOption.bind Role.side?

namespace Area

variable {a a' b : Area} {d : Dimension} {limit : Nat} {e : Element} {es : List Element}

def side (a : Area) : Side → Dimension
  | .left => a.left
  | .top => a.top
  | .right => a.right
  | .bottom => a.bottom

/-! ## Settings -/

/-- What a child of an area sets, and to what. -/
inductive Setting where
  | property (name : String)
  | side (s : Side) (d : Dimension)

def Setting.side? : Setting → Option Side
  | .property _ => none
  | .side s _ => some s

def set (a : Area) : Setting → Area
  | .property name => { a with property := some name }
  | .side .left d => { a with left := d }
  | .side .top d => { a with top := d }
  | .side .right d => { a with right := d }
  | .side .bottom d => { a with bottom := d }

variable {x y : Setting} {xs : List Setting} {s : Side}

/-- **Settings of different things commute.** -/
theorem set_comm (a : Area) (h : x.side? ≠ y.side?) : (a.set x).set y = (a.set y).set x := by
  cases x with
  | property name =>
    cases y with
    | property name' => exact absurd rfl h
    | side s d => cases s <;> rfl
  | side s d =>
    cases y with
    | property name => cases s <;> rfl
    | side s' d' => cases s <;> cases s' <;> simp [set, Setting.side?] at h ⊢

theorem side_set (a : Area) (h : x.side? ≠ some s) : (a.set x).side s = a.side s := by
  cases x with
  | property name => rfl
  | side s' d => cases s <;> cases s' <;> simp [side, set, Setting.side?] at h ⊢

theorem place_eq (a : Area) (d : Dimension) :
    a.place d = d.role.side?.map fun s => a.set (.side s d) := by
  unfold place
  cases d.role <;> rfl

/-! ## Reading children -/

/-- What a child is read as, whatever it is a child of. -/
inductive Sets (limit : Nat) (e : Element) : Setting → Prop
  | property {name : String} (hname : e.name = "AreaProperty")
    (hrequired : e.required "name" = .ok name) : Sets limit e (.property name)
  | side {s : Side} {d : Dimension} (hname : e.name ≠ "AreaProperty")
    (hread : (Dimension.readAt limit 1 e).result = .ok d) (hside : d.role.side? = some s) :
    Sets limit e (.side s d)

theorem Sets.side?_eq (h : Sets limit e x) : e.side? = x.side? := by
  unfold Element.side?
  cases h with
  | property hname _ => exact if_pos hname
  | @side s d hname hread hside =>
    obtain ⟨-, -, hrole, -⟩ := Dimension.readAt_cases hread
    rw [if_neg hname, hrole]
    exact hside

theorem Sets.property_iff (h : Sets limit e x) : e.name = "AreaProperty" ↔ x.side? = none := by
  cases h with
  | property hname _ => exact iff_of_true hname rfl
  | side hname _ _ => exact iff_of_false hname (Option.some_ne_none _)

theorem readChild_iff :
    (readChild limit a e).result = .ok a' ↔ ∃ x, Sets limit e x ∧ a' = a.set x := by
  constructor
  · intro h
    rcases readChild_cases h with ⟨hname, name, hrequired, rfl⟩ | ⟨hname, d, hd, hplace⟩
    · exact ⟨.property name, .property hname hrequired, rfl⟩
    · rw [place_eq, Option.map_eq_some_iff] at hplace
      obtain ⟨s, hs, rfl⟩ := hplace
      exact ⟨.side s d, .side hname hd hs, rfl⟩
  · rintro ⟨x, hx, rfl⟩
    unfold readChild
    cases hx with
    | property hname hrequired =>
      rw [if_pos hname, Outcome.result_bind, Outcome.result_ofExcept, hrequired]
      rfl
    | @side s d hname hread hside =>
      rw [if_neg hname, Outcome.result_bind, hread, Outcome.ok_bind, place_eq, hside]
      rfl

/-- **Children are read one by one, and then set in order.** -/
theorem readChildren_iff : (readChildren limit a es).result = .ok b ↔
    ∃ xs, List.Forall₂ (Sets limit) es xs ∧ b = xs.foldl set a := by
  induction es generalizing a with
  | nil =>
    simp only [List.forall₂_nil_left_iff, exists_eq_left, List.foldl_nil]
    exact ⟨fun h => by cases h; rfl, fun h => h ▸ rfl⟩
  | cons e es ih =>
    rw [readChildren, result_bind_eq_ok]
    simp only [readChild_iff, ih, List.forall₂_cons_left_iff]
    constructor
    · rintro ⟨_, ⟨x, hx, rfl⟩, xs, hxs, rfl⟩
      exact ⟨x :: xs, ⟨x, xs, hx, hxs, rfl⟩, rfl⟩
    · rintro ⟨_, ⟨x, xs, hx, hxs, rfl⟩, rfl⟩
      exact ⟨a.set x, ⟨x, hx, rfl⟩, xs, hxs, rfl⟩

/-! ## Settings in any order -/

theorem map_side? (h : List.Forall₂ (Sets limit) es xs) :
    xs.map Setting.side? = es.map Element.side? := by
  induction h with
  | nil => rfl
  | cons hx _ ih => rw [List.map_cons, List.map_cons, hx.side?_eq, ih]

theorem count_property (h : List.Forall₂ (Sets limit) es xs) :
    (xs.map Setting.side?).count none = es.countP (fun e => e.name = "AreaProperty") := by
  induction h with
  | nil => rfl
  | @cons e x es xs hx _ ih =>
    rw [List.map_cons, List.count_cons, List.countP_cons, ih]
    simp only [beq_iff_eq, decide_eq_true_eq, hx.property_iff]

/-- Children with at most one property among them, and no two for one side, set different things. -/
theorem nodup_side? (h : List.Forall₂ (Sets limit) es xs)
    (hproperty : es.countP (fun e => e.name = "AreaProperty") ≤ 1)
    (hsides : (es.filterMap Element.side?).Nodup) : (xs.map Setting.side?).Nodup := by
  rw [List.nodup_iff_count_le_one]
  intro o
  cases o with
  | none => rwa [count_property h]
  | some s =>
    have hcount := List.nodup_iff_count_le_one.1 hsides s
    rw [List.count_filterMap] at hcount
    rwa [map_side? h, List.count, List.countP_map]

theorem foldl_set_perm {ys : List Setting} (hxs : (xs.map Setting.side?).Nodup) (hperm : xs.Perm ys)
    (a : Area) : xs.foldl set a = ys.foldl set a := by
  refine hperm.foldl_eq' (fun x hx y hy a => ?_) a
  by_cases hxy : x = y
  · rw [hxy]
  · exact a.set_comm fun hside => hxy (List.inj_on_of_nodup_map hxs hx hy hside)

theorem side_foldl_set (a : Area) (h : some s ∉ xs.map Setting.side?) :
    (xs.foldl set a).side s = a.side s := by
  induction xs generalizing a with
  | nil => rfl
  | cons x xs ih =>
    rw [List.map_cons, List.mem_cons, not_or] at h
    exact (ih (a.set x) h.2).trans (a.side_set (Ne.symm h.1))

/-- **The order of the children does not matter** for an area with at most one property among them
and no two dimensions for one side.  Sides that no child sets are those of the whole widget. -/
theorem order_immaterial (h : (read limit e).result = .ok a)
    (hproperty : e.children.countP (fun c => c.name = "AreaProperty") ≤ 1)
    (hsides : (e.children.filterMap Element.side?).Nodup) :
    (∀ children, children.Perm e.children →
      (read limit { e with children := children }).result = .ok a) ∧
    ∀ s, s ∉ e.children.filterMap Element.side? → a.side s = whole.side s := by
  unfold read at h
  obtain ⟨_, hname, hchildren⟩ := result_bind_eq_ok.1 h
  obtain ⟨xs, hxs, rfl⟩ := readChildren_iff.1 hchildren
  refine ⟨fun children hperm => ?_, fun s hs => whole.side_foldl_set fun hmem => hs ?_⟩
  · -- the settings stand in the order of the children that they are read from
    obtain ⟨ys, hys, hyx⟩ := List.perm_comp_forall₂ hperm hxs
    have hset := foldl_set_perm (nodup_side? hxs hproperty hsides) hyx.symm whole
    exact result_bind_eq_ok.2 ⟨_, hname, readChildren_iff.2 ⟨ys, hys, hset⟩⟩
  · rw [map_side? hxs, List.mem_map] at hmem
    exact List.mem_filterMap.2 hmem

/-- An area with a property, an edge under its older name, and a width that is a sum. -/
def unsorted : Element :=
  ⟨"Area", [],
    [⟨"Dim", [("type", "Width")], [⟨"OperatorDim", [("op", "Add")],
      [⟨"WidgetDim", [("dimension", "Width")], []⟩, ⟨"OperatorDim", [], []⟩]⟩]⟩,
    ⟨"AreaProperty", [("name", "frame")], []⟩,
    ⟨"Dim", [("type", " XPosition")], [⟨"LiteralDim", [("value", "4")], []⟩]⟩]⟩

/-- Its children backwards give the same area, of which the top is that of the widget. -/
theorem order_immaterial_unsorted :
    let a : Area :=
      { whole with
        left := ⟨.leftEdge, .literal 4⟩
        right := ⟨.width, .operation .add (some (.widget ⟨none, .width⟩))
          (some (.operation .noop none none))⟩
        property := some "frame" }
    (read 4 unsorted).result = .ok a ∧
    (read 4 { unsorted with children := unsorted.children.reverse }).result = .ok a ∧
    a.side .top = whole.side .top := by
  intro a
  have hread : (read 4 unsorted).result = .ok a := rfl
  obtain ⟨horder, hunset⟩ := order_immaterial hread (by decide) (by decide)
  exact ⟨hread, horder _ (List.reverse_perm _), hunset .top (by decide)⟩

end Area

end SkinLayout
