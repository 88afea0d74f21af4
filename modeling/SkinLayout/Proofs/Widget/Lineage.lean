import Mathlib.Data.List.Nodup
import Mathlib.Data.List.Perm.Subperm
import Mathlib.Logic.Relation
import SkinLayout.Widget.View
/-!
# Widgets and their parents

`Tree.Above` says that one widget is another or stands above it.  A lineage is a whole chain of
parents, up to a widget without one; as a widget has at most one parent, a chain that ends cannot
repeat a widget.
-/
namespace SkinLayout

/-- Distinct keys of a table are no more than the table has. -/
theorem Table.length_le_size {κ α : Type} [DecidableEq κ] {t : Table κ α} {l : List κ}
    (hnodup : l.Nodup) (hl : ∀ k ∈ l, (t.get? k).isSome) : l.length ≤ t.size := by
  have hsub : l ⊆ t.keys := fun k hk => Table.mem_keys_iff.2 (hl k hk)
  have hlength := (hnodup.subperm hsub).length_le
  rwa [Table.keys, List.length_map] at hlength

namespace Tree

variable {t t' : Tree} {id p c a b : WidgetId} {w : Widget} {l l' : List WidgetId}

/-! ## The relation -/

/-- The parent that a widget names. -/
def parentOf (t : Tree) (id : WidgetId) : Option WidgetId := (t.get? id).bind Widget.parent

theorem parentOf_eq_join (t : Tree) (id : WidgetId) :
    t.parentOf id = ((t.get? id).map Widget.parent).join := by
  unfold parentOf
  cases t.get? id <;> rfl

theorem parentOf_congr (hparent : (t'.get? id).map Widget.parent = (t.get? id).map Widget.parent) :
    t'.parentOf id = t.parentOf id := by
  rw [parentOf_eq_join, parentOf_eq_join, hparent]

theorem isSome_get?_congr
    (hparent : (t'.get? id).map Widget.parent = (t.get? id).map Widget.parent) :
    (t'.get? id).isSome = (t.get? id).isSome := by
  have hsome := congrArg Option.isSome hparent
  rwa [Option.isSome_map, Option.isSome_map] at hsome

theorem parentOf_of_get? (hget : t.get? id = some w) : t.parentOf id = w.parent := by
  rw [parentOf, hget, Option.bind_some]

theorem parentOf_of_absent (hget : t.get? id = none) : t.parentOf id = none := by
  rw [parentOf, hget, Option.bind_none]

theorem exists_of_parentOf (h : t.parentOf c = some p) :
    ∃ w, t.get? c = some w ∧ w.parent = some p := Option.bind_eq_some_iff.1 h

/-- The first widget is the second, or one of the parents above it. -/
def Above (t : Tree) : WidgetId → WidgetId → Prop :=
  Relation.ReflTransGen fun p c => t.parentOf c = some p

theorem Above.refl (t : Tree) (id : WidgetId) : t.Above id id := Relation.ReflTransGen.refl

theorem Above.trans (hab : t.Above a b) (hbc : t.Above b c) : t.Above a c :=
  Relation.ReflTransGen.trans hab hbc

theorem above_of_parentOf (h : t.parentOf c = some p) : t.Above p c :=
  Relation.ReflTransGen.single h

theorem above_iff : t.Above a c ↔ c = a ∨ ∃ p, t.parentOf c = some p ∧ t.Above a p := by
  constructor
  · intro h
    rcases Relation.ReflTransGen.cases_tail h with h | ⟨p, hp, hc⟩
    · exact .inl h
    · exact .inr ⟨p, hc, hp⟩
  · rintro (rfl | ⟨p, hc, hp⟩)
    · exact .refl t c
    · exact hp.trans (above_of_parentOf hc)

theorem above_iff_child : t.Above a b ↔ a = b ∨ ∃ c, t.parentOf c = some a ∧ t.Above c b :=
  Relation.ReflTransGen.cases_head_iff

/-- A widget that has one of the tree above it is in the tree. -/
theorem isSome_of_above (hab : t.Above a b) (ha : (t.get? a).isSome) : (t.get? b).isSome := by
  rcases above_iff.1 hab with rfl | ⟨p, hparent, -⟩
  · exact ha
  · obtain ⟨w, hget, -⟩ := exists_of_parentOf hparent
    rw [hget, Option.isSome_some]

theorem Above.of_parentOf_eq (hsame : ∀ x, t'.parentOf x = t.parentOf x) (h : t.Above a b) :
    t'.Above a b :=
  Relation.ReflTransGen.mono (fun _ x hx => (hsame x).trans hx) a b h

/-! ## Lineages -/

/-- A widget and all above it, in order, up to a widget without a parent. -/
inductive Lineage (t : Tree) : WidgetId → List WidgetId → Prop
  | root {id : WidgetId} {w : Widget} (hget : t.get? id = some w) (hparent : w.parent = none) :
    Lineage t id [id]
  | child {id p : WidgetId} {w : Widget} {l : List WidgetId} (hget : t.get? id = some w)
    (hparent : w.parent = some p) (hl : Lineage t p l) : Lineage t id (id :: l)

namespace Lineage

theorem isSome (h : t.Lineage id l) : (t.get? id).isSome := by
  cases h with
  | root hget _ => rw [hget]; rfl
  | child hget _ _ => rw [hget]; rfl

theorem unique (h : t.Lineage id l) : t.Lineage id l' → l = l' := by
  induction h generalizing l' with
  | root hget hparent =>
    intro h'
    cases h' with
    | root _ _ => rfl
    | child hget' hparent' _ =>
      rw [hget] at hget'; cases hget'
      rw [hparent] at hparent'; cases hparent'
  | child hget hparent _ ih =>
    intro h'
    cases h' with
    | root hget' hparent' =>
      rw [hget] at hget'; cases hget'
      rw [hparent] at hparent'; cases hparent'
    | child hget' hparent' hl' =>
      rw [hget] at hget'; cases hget'
      rw [hparent] at hparent'; cases hparent'
      rw [ih hl']

/-- What stands in a lineage is exactly what is above its widget. -/
theorem mem_iff (h : t.Lineage id l) : a ∈ l ↔ t.Above a id := by
  induction h with
  | root hget hparent =>
    rw [above_iff, parentOf_of_get? hget, hparent, List.mem_singleton]
    simp [eq_comm]
  | child hget hparent _ ih =>
    rw [above_iff, parentOf_of_get? hget, hparent, List.mem_cons, ih]
    simp [eq_comm]

theorem exists_suffix (h : t.Lineage id l) (ha : a ∈ l) : ∃ l', t.Lineage a l' ∧ l' <:+ l := by
  induction h with
  | root hget hparent =>
    rw [List.mem_singleton] at ha
    subst ha
    exact ⟨_, .root hget hparent, List.suffix_refl _⟩
  | child hget hparent hl ih =>
    rcases List.mem_cons.1 ha with rfl | ha
    · exact ⟨_, .child hget hparent hl, List.suffix_refl _⟩
    · obtain ⟨l', hl', hsuffix⟩ := ih ha
      exact ⟨l', hl', hsuffix.trans (List.suffix_cons _ _)⟩

/-- A widget met again would be its own lineage's proper end. -/
theorem not_mem_parent (h : t.Lineage p l) (hget : t.get? id = some w)
    (hparent : w.parent = some p) : id ∉ l := by
  intro hid
  obtain ⟨l', hl', hsuffix⟩ := h.exists_suffix hid
  have heq : l' = id :: l := hl'.unique (.child hget hparent h)
  have hlength := hsuffix.length_le
  rw [heq, List.length_cons] at hlength
  omega

theorem nodup (h : t.Lineage id l) : l.Nodup := by
  induction h with
  | root _ _ => exact List.nodup_singleton _
  | child hget hparent hl ih => exact List.nodup_cons.2 ⟨hl.not_mem_parent hget hparent, ih⟩

theorem isSome_of_mem (h : t.Lineage id l) (ha : a ∈ l) : (t.get? a).isSome := by
  obtain ⟨_, hl', _⟩ := h.exists_suffix ha
  exact hl'.isSome

/-- A lineage depends on the parents that its own widgets name, and on nothing else. -/
theorem congr (h : t.Lineage id l)
    (hsame : ∀ a ∈ l, (t'.get? a).map Widget.parent = (t.get? a).map Widget.parent) :
    t'.Lineage id l := by
  induction h with
  | root hget hparent =>
    have hself := hsame _ (List.mem_singleton_self _)
    rw [hget, Option.map_some] at hself
    obtain ⟨w', hget', hparent'⟩ := Option.map_eq_some_iff.1 hself
    exact .root hget' (hparent'.trans hparent)
  | child hget hparent _ ih =>
    have hself := hsame _ List.mem_cons_self
    rw [hget, Option.map_some] at hself
    obtain ⟨w', hget', hparent'⟩ := Option.map_eq_some_iff.1 hself
    exact .child hget' (hparent'.trans hparent) (ih fun a ha => hsame a (List.mem_cons_of_mem _ ha))

theorem above_antisymm (h : t.Lineage b l) (hab : t.Above a b) (hba : t.Above b a) : a = b := by
  obtain ⟨la, hla, hsuffixa⟩ := h.exists_suffix (h.mem_iff.2 hab)
  obtain ⟨lb, hlb, hsuffixb⟩ := hla.exists_suffix (hla.mem_iff.2 hba)
  have heq : la = l := by
    refine hsuffixa.eq_of_length_le ?_
    rw [h.unique hlb]
    exact hsuffixb.length_le
  subst heq
  cases hla with
  | root _ _ => cases h <;> rfl
  | child _ _ _ => cases h <;> rfl

end Lineage

/-! ## Edits -/

theorem get?_edit (t : Tree) (id : WidgetId) (f : Widget → Widget) (x : WidgetId) :
    (t.edit id f).get? x = if x = id then (t.get? x).map f else t.get? x :=
  Table.get?_modify _ _ _ _

theorem parent_get?_edit {f : Widget → Widget}
    (hf : ∀ w, t.get? id = some w → (f w).parent = w.parent) (x : WidgetId) :
    ((t.edit id f).get? x).map Widget.parent = (t.get? x).map Widget.parent := by
  rw [get?_edit]
  by_cases hx : x = id
  · subst hx
    rw [if_pos rfl, Option.map_map]
    exact Option.map_congr fun w hw => hf w hw
  · rw [if_neg hx]

/-! ## Trees whose links fit together -/

/-- Parents and child lists say the same, every widget has a lineage, and each list names a widget
once. -/
structure WellFormed (t : Tree) : Prop where
  lineage : ∀ {id w}, t.get? id = some w → ∃ l, t.Lineage id l
  isSome_children : ∀ id, (t.children.get? id).isSome = (t.get? id).isSome
  nodup_children : ∀ p, (t.childrenOf p).Nodup
  mem_children : ∀ {p c}, c ∈ t.childrenOf p ↔ t.parentOf c = some p
  nodup_roots : t.roots.Nodup
  mem_roots : ∀ {id}, id ∈ t.roots ↔ ∃ w, t.get? id = some w ∧ w.parent = none

namespace WellFormed

theorem isSome_of_parentOf (h : t.WellFormed) (hparent : t.parentOf c = some p) :
    (t.get? p).isSome := by
  obtain ⟨w, hget, hw⟩ := exists_of_parentOf hparent
  obtain ⟨l, hl⟩ := h.lineage hget
  cases hl with
  | root hget' hnone =>
    rw [hget] at hget'; cases hget'
    rw [hw] at hnone; cases hnone
  | child hget' hsome hl =>
    rw [hget] at hget'; cases hget'
    rw [hw] at hsome; cases hsome
    exact hl.isSome

theorem parentOf_of_mem_roots (h : t.WellFormed) (hid : id ∈ t.roots) : t.parentOf id = none := by
  obtain ⟨w, hget, hparent⟩ := h.mem_roots.1 hid
  rw [parentOf_of_get? hget, hparent]

theorem not_mem_roots_of_absent (h : t.WellFormed) (hget : t.get? id = none) : id ∉ t.roots := by
  intro hid
  obtain ⟨w, hsome, -⟩ := h.mem_roots.1 hid
  rw [hget] at hsome
  cases hsome

theorem children_of_absent (h : t.WellFormed) (hget : t.get? p = none) :
    t.children.get? p = none := by
  have hchildren := h.isSome_children p
  rwa [hget, Option.isSome_none, Option.isSome_eq_false_iff, Option.isNone_iff_eq_none]
    at hchildren

theorem childrenOf_of_absent (h : t.WellFormed) (hget : t.get? p = none) : t.childrenOf p = [] := by
  rw [childrenOf, h.children_of_absent hget, Option.getD_none]

theorem parentOf_ne_of_absent (h : t.WellFormed) (hget : t.get? p = none) (c : WidgetId) :
    t.parentOf c ≠ some p := by
  intro hparent
  have hsome := h.isSome_of_parentOf hparent
  rw [hget] at hsome
  cases hsome

theorem not_mem_children_of_absent (h : t.WellFormed) (hget : t.get? c = none) (p : WidgetId) :
    c ∉ t.childrenOf p := by
  rw [h.mem_children, parentOf_of_absent hget]
  exact (Option.some_ne_none p).symm

theorem above_of_absent (h : t.WellFormed) (hget : t.get? a = none) (hab : t.Above a b) :
    a = b := by
  rcases above_iff_child.1 hab with hab | ⟨c, hparent, _⟩
  · exact hab
  · exact absurd hparent (h.parentOf_ne_of_absent hget c)

/-- Two widgets that are above each other are one. -/
theorem above_antisymm (h : t.WellFormed) (hab : t.Above a b) (hba : t.Above b a) : a = b := by
  cases hget : t.get? b with
  | none => exact (h.above_of_absent hget hba).symm
  | some w =>
    obtain ⟨l, hl⟩ := h.lineage hget
    exact hl.above_antisymm hab hba

/-- What changes neither parents nor lists keeps a tree well-formed. -/
theorem congr (h : t.WellFormed)
    (hparent : ∀ id, (t'.get? id).map Widget.parent = (t.get? id).map Widget.parent)
    (hchildren : ∀ id, t'.children.get? id = t.children.get? id) (hroots : t'.roots = t.roots) :
    t'.WellFormed := by
  have hsome : ∀ id, (t'.get? id).isSome = (t.get? id).isSome :=
    fun id => isSome_get?_congr (hparent id)
  have hchildrenOf : ∀ id, t'.childrenOf id = t.childrenOf id := by
    intro id
    rw [childrenOf, childrenOf, hchildren]
  refine ⟨fun {id w} hget => ?_, fun id => ?_, fun p => ?_, fun {p c} => ?_, ?_, fun {id} => ?_⟩
  · have hid := hsome id
    rw [hget, Option.isSome_some] at hid
    obtain ⟨w', hget'⟩ := Option.isSome_iff_exists.1 hid.symm
    obtain ⟨l, hl⟩ := h.lineage hget'
    exact ⟨l, hl.congr fun a _ => hparent a⟩
  · rw [hchildren, hsome, h.isSome_children]
  · rw [hchildrenOf]
    exact h.nodup_children p
  · rw [hchildrenOf, parentOf_congr (hparent c)]
    exact h.mem_children
  · rw [hroots]
    exact h.nodup_roots
  · have hid : (∃ w, t'.get? id = some w ∧ w.parent = none) ↔
        ∃ w, t.get? id = some w ∧ w.parent = none := by
      rw [← Option.map_eq_some_iff, ← Option.map_eq_some_iff, hparent]
    rw [hroots, hid]
    exact h.mem_roots

/-! ## What keeps the links -/

theorem start (nextId : WidgetId) (r : Resources) (align : Bool) :
    WellFormed ⟨.empty, [], .empty, nextId, r, align⟩ :=
  ⟨fun hget => (by cases hget), fun _ => rfl, fun _ => List.nodup_nil,
    fun {_ _} => ⟨fun hc => (by cases hc), fun hparent => (by cases hparent)⟩, List.nodup_nil,
    fun {_} => ⟨fun hid => (by cases hid), fun ⟨_, hget, _⟩ => (by cases hget)⟩⟩

theorem freshId (h : t.WellFormed) : t.freshId.2.WellFormed :=
  h.congr (fun _ => rfl) (fun _ => rfl) rfl

theorem setPointSize (h : t.WellFormed) (font : String) (size : Float32) :
    (t.setPointSize font size).WellFormed :=
  h.congr (fun _ => rfl) (fun _ => rfl) rfl

theorem edit (h : t.WellFormed) {id : WidgetId} {f : Widget → Widget}
    (hf : ∀ w, t.get? id = some w → (f w).parent = w.parent) : (t.edit id f).WellFormed :=
  h.congr (parent_get?_edit hf) (fun _ => rfl) rfl

theorem setArea (h : t.WellFormed) (id : WidgetId) (area : UnifiedRect) :
    (t.setArea id area).WellFormed :=
  h.edit fun _ _ => rfl

end WellFormed

theorem get?_setArea (t : Tree) (id : WidgetId) (area : UnifiedRect) (x : WidgetId) :
    (t.setArea id area).get? x =
      if x = id then (t.get? x).map fun w => { w with area := area } else t.get? x :=
  t.get?_edit _ _ _

theorem parentOf_setArea (t : Tree) (id : WidgetId) (area : UnifiedRect) (x : WidgetId) :
    (t.setArea id area).parentOf x = t.parentOf x := by
  rw [parentOf, parentOf, get?_setArea]
  by_cases hx : x = id
  · rw [if_pos hx]
    cases t.get? x <;> rfl
  · rw [if_neg hx]

/-! ## New widgets -/

theorem get?_addRoot (t : Tree) (id : WidgetId) (w : Widget) (x : WidgetId) :
    (t.addRoot id w).get? x = if x = id then some { w with parent := none } else t.get? x :=
  Table.get?_insert _ _ _ _

theorem get?_addChild (t : Tree) (p id : WidgetId) (w : Widget) (x : WidgetId) :
    (t.addChild p id w).get? x = if x = id then some { w with parent := some p } else t.get? x :=
  Table.get?_insert _ _ _ _

/-- The second tree has one more widget, which is last in its parent's list or among the roots. -/
structure Added (t : Tree) (id : WidgetId) (w : Widget) (t' : Tree) : Prop where
  get? : ∀ x, t'.get? x = if x = id then some w else t.get? x
  children : ∀ x, t'.children.get? x =
    if x = id then some []
    else if w.parent = some x then some (t.childrenOf x ++ [id]) else t.children.get? x
  roots : t'.roots = if w.parent = none then t.roots ++ [id] else t.roots

theorem added_addRoot (t : Tree) (id : WidgetId) (w : Widget) :
    t.Added id { w with parent := none } (t.addRoot id w) where
  get? := t.get?_addRoot id w
  children _ := Table.get?_insert _ _ _ _
  roots := rfl

theorem added_addChild (t : Tree) (p id : WidgetId) (w : Widget) :
    t.Added id { w with parent := some p } (t.addChild p id w) where
  get? := t.get?_addChild p id w
  children x := by
    show ((t.children.insert p (t.childrenOf p ++ [id])).insert id []).get? x = _
    rw [Table.get?_insert, Table.get?_insert]
    by_cases hx : x = p
    · rw [if_pos hx, if_pos (congrArg some hx.symm), hx]
    · rw [if_neg hx, if_neg fun he => hx (Option.some.inj he).symm]
  roots := rfl

namespace Added

theorem parentOf (h : t.Added id w t') (x : WidgetId) :
    t'.parentOf x = if x = id then w.parent else t.parentOf x := by
  rw [Tree.parentOf, h.get?]
  by_cases hx : x = id
  · rw [if_pos hx, if_pos hx]; rfl
  · rw [if_neg hx, if_neg hx]; rfl

theorem childrenOf (h : t.Added id w t') (x : WidgetId) :
    t'.childrenOf x = if x = id then []
      else if w.parent = some x then t.childrenOf x ++ [id] else t.childrenOf x := by
  rw [Tree.childrenOf, h.children]
  by_cases hx : x = id
  · rw [if_pos hx, if_pos hx]; rfl
  · rw [if_neg hx, if_neg hx]
    by_cases hparent : w.parent = some x
    · rw [if_pos hparent, if_pos hparent]; rfl
    · rw [if_neg hparent, if_neg hparent]; rfl

/-- Older lineages stay: the new widget is in none of them. -/
theorem lineage (h : t.Added id w t') (hwf : t.WellFormed) (habsent : t.get? id = none) {v : Widget}
    (hget : t.get? a = some v) : ∃ l, t'.Lineage a l := by
  obtain ⟨l, hl⟩ := hwf.lineage hget
  refine ⟨l, hl.congr fun x hx => ?_⟩
  have hne : x ≠ id := by
    rintro rfl
    have hsome := hl.isSome_of_mem hx
    rw [habsent] at hsome
    cases hsome
  rw [h.get?, if_neg hne]

theorem isSome_children (h : t.Added id w t') (hwf : t.WellFormed)
    (hparent : ∀ p, w.parent = some p → (t.get? p).isSome) (x : WidgetId) :
    (t'.children.get? x).isSome = (t'.get? x).isSome := by
  rw [h.children, h.get?]
  by_cases hx : x = id
  · rw [if_pos hx, if_pos hx]; rfl
  · rw [if_neg hx, if_neg hx]
    by_cases hwx : w.parent = some x
    · rw [if_pos hwx, hparent x hwx]; rfl
    · rw [if_neg hwx, hwf.isSome_children]

theorem mem_children (h : t.Added id w t') (hwf : t.WellFormed) (habsent : t.get? id = none)
    (hself : w.parent ≠ some id) :
    c ∈ t'.childrenOf p ↔ t'.parentOf c = some p := by
  have hlist := hwf.not_mem_children_of_absent habsent p
  rw [h.childrenOf, h.parentOf]
  by_cases hp : p = id
  · rw [if_pos hp, hp]
    by_cases hc : c = id
    · simp [hc, hself]
    · simp [hc, hwf.parentOf_ne_of_absent habsent c]
  · rw [if_neg hp]
    by_cases hc : c = id
    · subst hc
      by_cases hwp : w.parent = some p
      · simp [hwp]
      · simp [hwp, hlist]
    · rw [if_neg hc, ← hwf.mem_children]
      by_cases hwp : w.parent = some p
      · simp [hwp, hc]
      · simp [hwp]

theorem wellFormed (h : t.Added id w t') (hwf : t.WellFormed) (habsent : t.get? id = none)
    (hparent : ∀ p, w.parent = some p → (t.get? p).isSome) : t'.WellFormed := by
  have hself : w.parent ≠ some id := by
    intro hid
    have hsome := hparent id hid
    rw [habsent] at hsome
    cases hsome
  have hroot : id ∉ t.roots := hwf.not_mem_roots_of_absent habsent
  refine ⟨fun {x v} hget => ?_, h.isSome_children hwf hparent, fun x => ?_,
    h.mem_children hwf habsent hself, ?_, fun {x} => ?_⟩
  · rw [h.get?] at hget
    by_cases hx : x = id
    · subst hx
      have hnew : t'.get? x = some w := (h.get? x).trans (if_pos rfl)
      cases hw : w.parent with
      | none => exact ⟨_, .root hnew hw⟩
      | some p =>
        obtain ⟨v, hv⟩ := Option.isSome_iff_exists.1 (hparent p hw)
        obtain ⟨l, hl⟩ := h.lineage hwf habsent hv
        exact ⟨_, .child hnew hw hl⟩
    · rw [if_neg hx] at hget
      exact h.lineage hwf habsent hget
  · rw [h.childrenOf]
    by_cases hx : x = id
    · rw [if_pos hx]; exact List.nodup_nil
    · rw [if_neg hx]
      by_cases hw : w.parent = some x
      · rw [if_pos hw]
        rw [← List.concat_eq_append]
        exact (hwf.nodup_children x).concat (hwf.not_mem_children_of_absent habsent x)
      · rw [if_neg hw]; exact hwf.nodup_children x
  · rw [h.roots]
    by_cases hw : w.parent = none
    · rw [if_pos hw, ← List.concat_eq_append]
      exact hwf.nodup_roots.concat hroot
    · rw [if_neg hw]; exact hwf.nodup_roots
  · rw [h.roots, h.get?]
    by_cases hx : x = id
    · subst hx
      by_cases hw : w.parent = none
      · simp [hw]
      · simp [hw, hroot]
    · rw [if_neg hx, ← hwf.mem_roots]
      by_cases hw : w.parent = none
      · simp [hw, hx]
      · rw [if_neg hw]

end Added

namespace WellFormed

theorem addRoot (h : t.WellFormed) (habsent : t.get? id = none) (w : Widget) :
    (t.addRoot id w).WellFormed :=
  (t.added_addRoot id w).wellFormed h habsent fun _ hp => (by cases hp)

theorem addChild (h : t.WellFormed) (habsent : t.get? id = none) (hp : (t.get? p).isSome)
    (w : Widget) : (t.addChild p id w).WellFormed :=
  (t.added_addChild p id w).wellFormed h habsent fun _ hq => Option.some.inj hq ▸ hp

end WellFormed

end Tree

end SkinLayout
