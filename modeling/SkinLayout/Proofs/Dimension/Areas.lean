import SkinLayout.Proofs.Dimension.Agreement
import SkinLayout.Proofs.Dimension.Reading
/-!
# Areas through markup

An area is written side by side, and the reader starts from the area of the whole widget and puts
each dimension on the side that its role names.  So an area comes back if each of its dimensions is
where the reader puts it (`Area.RolesFit`), and only then: whatever the reader makes of the others
has its roles where they belong.
-/
namespace SkinLayout
namespace Area

/-- Every side has a role that is put on that side. -/
structure RolesFit (a : Area) : Prop where
  left : a.left.role = .leftEdge
  top : a.top.role = .topEdge
  right : a.right.role = .rightEdge ∨ a.right.role = .width
  bottom : a.bottom.role = .bottomEdge ∨ a.bottom.role = .height

/-- Levels of the area: its own, that of its dimensions, and those of their nodes. -/
def height (a : Area) : Nat :=
  2 + max (max a.left.node.height a.top.node.height) (max a.right.node.height a.bottom.node.height)

/-- The form in which an area comes back: that of its dimensions. -/
def norm (a : Area) : Area := ⟨a.left.norm, a.top.norm, a.right.norm, a.bottom.norm, a.property⟩

variable {a a' b : Area} {d : Dimension} {limit : Nat} {e : Element}

theorem height_le_iff : a.height ≤ limit ↔ ∀ d ∈ a.dimensions, 1 + d.height ≤ limit := by
  simp only [height, dimensions, Dimension.height, List.forall_mem_cons, List.not_mem_nil,
    false_implies, implies_true, and_true]
  omega

theorem dimensions_norm (a : Area) : a.norm.dimensions = a.dimensions.map Dimension.norm := rfl

/-! ## Sides -/

/-- A dimension that has a place is put on one side, where its role fits. -/
theorem place_cases (h : a.place d = some a') :
    (d.role = .leftEdge ∧ a' = { a with left := d }) ∨
    (d.role = .topEdge ∧ a' = { a with top := d }) ∨
    ((d.role = .rightEdge ∨ d.role = .width) ∧ a' = { a with right := d }) ∨
    ((d.role = .bottomEdge ∨ d.role = .height) ∧ a' = { a with bottom := d }) := by
  unfold place at h
  cases hrole : d.role <;> rw [hrole] at h <;> cases h <;> simp

theorem place_left (a : Area) (h : d.role = .leftEdge) : a.place d = some { a with left := d } := by
  unfold place
  rw [h]

theorem place_top (a : Area) (h : d.role = .topEdge) : a.place d = some { a with top := d } := by
  unfold place
  rw [h]

theorem place_right (a : Area) (h : d.role = .rightEdge ∨ d.role = .width) :
    a.place d = some { a with right := d } := by
  unfold place
  rcases h with h | h <;> rw [h]

theorem place_bottom (a : Area) (h : d.role = .bottomEdge ∨ d.role = .height) :
    a.place d = some { a with bottom := d } := by
  unfold place
  rcases h with h | h <;> rw [h]

namespace RolesFit

theorem whole : RolesFit whole := ⟨rfl, rfl, .inr rfl, .inr rfl⟩

theorem norm_iff : a.norm.RolesFit ↔ a.RolesFit :=
  ⟨fun h => ⟨h.left, h.top, h.right, h.bottom⟩, fun h => ⟨h.left, h.top, h.right, h.bottom⟩⟩

theorem place (h : a.RolesFit) (hplace : a.place d = some a') : a'.RolesFit := by
  rcases place_cases hplace with ⟨hd, rfl⟩ | ⟨hd, rfl⟩ | ⟨hd, rfl⟩ | ⟨hd, rfl⟩
  · exact ⟨hd, h.top, h.right, h.bottom⟩
  · exact ⟨h.left, hd, h.right, h.bottom⟩
  · exact ⟨h.left, h.top, hd, h.bottom⟩
  · exact ⟨h.left, h.top, h.right, hd⟩

/-- **Whatever an area is read from, its roles fit.** -/
theorem of_read (h : (Area.read limit e).result = .ok a) : a.RolesFit := by
  refine read_induction whole (fun e a a' ha hchild => ?_) h
  rcases readChild_cases hchild with ⟨-, name, -, rfl⟩ | ⟨-, d, -, hplace⟩
  · exact ⟨ha.left, ha.top, ha.right, ha.bottom⟩
  · exact ha.place hplace

end RolesFit

/-! ## Reading what was written -/

/-- Puts dimensions on their sides, one after the other. -/
def placeAll (a : Area) : List Dimension → Option Area
  | [] => some a
  | d :: ds => (a.place d).bind fun a => a.placeAll ds

theorem RolesFit.placeAll (h : a.RolesFit) (b : Area) :
    b.placeAll a.dimensions = some { a with property := b.property } := by
  unfold dimensions
  simp only [Area.placeAll, b.place_left h.left, place_top _ h.top, place_right _ h.right,
    place_bottom _ h.bottom, Option.bind_some]

/-- A child that is read as a dimension with a place is read onto its side, if the limit allows. -/
theorem result_readChild_of (hname : e.name ≠ "AreaProperty") {levels : Nat}
    (hread : (Dimension.readAt limit 1 e).result =
      if levels ≤ limit then .ok d else .error (.nestingTooDeep limit))
    (hplace : a.place d = some a') : (readChild limit a e).result =
      if levels ≤ limit then .ok a' else .error (.nestingTooDeep limit) := by
  unfold readChild
  rw [if_neg hname, Outcome.result_bind, hread]
  by_cases hd : levels ≤ limit
  · rw [if_pos hd, if_pos hd, Outcome.ok_bind, hplace, Outcome.result_pure]
  · rw [if_neg hd, if_neg hd, Outcome.error_bind]

/-- A dimension that has a place is read onto its side, if its height allows. -/
theorem result_readChild_toElement (hplace : a.place d.norm = some a') (limit : Nat) :
    (readChild limit a d.toElement).result =
      if 1 + d.height ≤ limit then .ok a' else .error (.nestingTooDeep limit) :=
  result_readChild_of (by simp [Dimension.toElement]) (Dimension.result_readAt_toElement limit 1 d)
    hplace

/-- Dimensions that all have a place are read onto their sides, if their heights allow. -/
theorem result_readChildren_toElement (limit : Nat) : ∀ {ds : List Dimension} {a b : Area},
    a.placeAll (ds.map Dimension.norm) = some b →
    (readChildren limit a (ds.map Dimension.toElement)).result =
      if ∀ d ∈ ds, 1 + d.height ≤ limit then .ok b else .error (.nestingTooDeep limit)
  | [], a, b, h => by
    cases h
    rw [if_pos (List.forall_mem_nil _)]
    rfl
  | d :: ds, a, b, h => by
    obtain ⟨a', hplace, hrest⟩ := Option.bind_eq_some_iff.1 h
    rw [List.map_cons, readChildren, Outcome.result_bind, result_readChild_toElement hplace]
    by_cases hd : 1 + d.height ≤ limit
    · rw [if_pos hd, Outcome.ok_bind, result_readChildren_toElement limit hrest]
      simp only [List.forall_mem_cons, hd, true_and]
    · -- the first dimension that is too high ends the reading
      rw [if_neg hd, Outcome.error_bind, if_neg fun hall => hd (hall d List.mem_cons_self)]

theorem result_readChildren_property (limit : Nat) (name : Option String) (es : List Element) :
    (readChildren limit whole (propertyElements name ++ es)).result =
      (readChildren limit { whole with property := name } es).result := by
  cases name with
  | none => rfl
  | some name =>
    have hread : (readChild limit whole ⟨"AreaProperty", [("name", name)], []⟩).result =
        .ok { whole with property := some name } := rfl
    show (readChild limit whole _ >>= fun a => readChildren limit a es).result = _
    rw [Outcome.result_bind, hread, Outcome.ok_bind]

/-- **Reading an area that was written** gives its normal form if its roles fit, or finds it too
high. -/
theorem result_read_toElement (h : a.RolesFit) (limit : Nat) : (read limit a.toElement).result =
    if a.height ≤ limit then .ok a.norm else .error (.nestingTooDeep limit) := by
  have hplace : placeAll { whole with property := a.property }
      (a.dimensions.map Dimension.norm) = some a.norm := by
    rw [← dimensions_norm]
    exact (RolesFit.norm_iff.2 h).placeAll _
  show (readChildren limit whole (propertyElements a.property ++ _)).result = _
  rw [result_readChildren_property, result_readChildren_toElement limit hplace]
  simp only [height_le_iff]

/-- Areas that agree have the same roles. -/
theorem RolesFit.of_agree (h : a.RolesFit) (hab : a.Agree b) : b.RolesFit :=
  ⟨hab.left.role ▸ h.left, hab.top.role ▸ h.top, hab.right.role ▸ h.right,
    hab.bottom.role ▸ h.bottom⟩

/-- **Markup brings back in normal form exactly the areas whose roles fit**, or refuses them for
their height.  Of an area with a role out of place comes an error, or another area. -/
theorem comes_back_iff_rolesFit (a : Area) (limit : Nat) :
    (a.RolesFit → Call.reread (read limit) a.calls =
      some (if a.height ≤ limit then .ok a.norm else .error (.nestingTooDeep limit))) ∧
    (¬ a.RolesFit → ∀ b, Call.reread (read limit) a.calls = some (.ok b) →
      b ≠ a.norm ∧ (b == a.norm) = false) := by
  have hroot : Call.reread (read limit) a.calls = some (read limit a.toElement).result :=
    Element.reread_eq _ _
  refine ⟨fun h => ?_, fun hfit b hb => ?_⟩
  · rw [hroot, result_read_toElement h]
  · rw [hroot, Option.some.injEq] at hb
    have hbfit := RolesFit.of_read hb
    have hbeq : (b == a.norm) = false := by
      rw [Bool.eq_false_iff]
      intro heq
      exact hfit (RolesFit.norm_iff.1 (hbfit.of_agree (beq_iff_agree.1 heq).1))
    refine ⟨?_, hbeq⟩
    rintro rfl
    exact hfit (RolesFit.norm_iff.1 hbfit)

/-- The left half of a widget, with something of all that normal form changes. -/
def leftHalf : Area where
  left := ⟨.leftEdge, .operation .add none (some (.literal 2))⟩
  top := ⟨.topEdge, .font ⟨some "", none, some "", .baseline, -0⟩⟩
  right := ⟨.rightEdge, .unified (.relative 0.5) .width⟩
  bottom := ⟨.height, .unified .full .height⟩
  property := some ""

/-- It is four levels high; with an edge on the wrong side it is not what comes back. -/
theorem comes_back_leftHalf :
    Call.reread (read 4) leftHalf.calls = some (.ok leftHalf.norm) ∧
    Call.reread (read 3) leftHalf.calls = some (.error (.nestingTooDeep 3)) ∧
    Call.reread (read 4) { leftHalf with left := leftHalf.right }.calls ≠
      some (.ok { leftHalf with left := leftHalf.right }.norm) := by
  have hfit : leftHalf.RolesFit := ⟨rfl, rfl, .inl rfl, .inr rfl⟩
  have hnot : ¬ RolesFit { leftHalf with left := leftHalf.right } := fun h => by cases h.left
  refine ⟨((comes_back_iff_rolesFit leftHalf 4).1 hfit).trans rfl,
    ((comes_back_iff_rolesFit leftHalf 3).1 hfit).trans rfl, fun hback => ?_⟩
  exact ((comes_back_iff_rolesFit _ 4).2 hnot _ hback).1 rfl

end Area

end SkinLayout
