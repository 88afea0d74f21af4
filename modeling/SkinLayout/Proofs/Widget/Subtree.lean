import Mathlib.Data.List.Find
import SkinLayout.Proofs.Widget.Lineage
/-!
# The widgets below one

`Tree.subtree` follows child lists within a bound.  In a well-formed tree the bound is never met
before the lists end, so the subtree of a widget is the widget and the subtrees of its children
(`WellFormed.subtree_eq`), and it holds exactly the widgets that have it among their parents.
-/
namespace SkinLayout
namespace Tree

variable {t t' : Tree} {id p c a b x : WidgetId} {w : Widget} {l : List WidgetId}

namespace WellFormed

theorem exists_child (h : t.WellFormed) (hc : c ∈ t.childrenOf p) :
    ∃ w, t.get? c = some w ∧ w.parent = some p := exists_of_parentOf (h.mem_children.1 hc)

theorem lineage_child (h : t.WellFormed) (hl : t.Lineage p l) (hc : c ∈ t.childrenOf p) :
    t.Lineage c (c :: l) := by
  obtain ⟨w, hget, hparent⟩ := h.exists_child hc
  exact .child hget hparent hl

/-- Lineages are bounded by the child lists as well: every widget has one. -/
theorem length_le_children (h : t.WellFormed) (hl : t.Lineage id l) : l.length ≤ t.children.size :=
  Table.length_le_size hl.nodup fun a ha => by
    rw [h.isSome_children]
    exact hl.isSome_of_mem ha

theorem childrenOf_of_size_le (h : t.WellFormed) (hl : t.Lineage id l)
    (hsize : t.children.size ≤ l.length) : t.childrenOf id = [] := by
  refine List.eq_nil_iff_forall_not_mem.2 fun c hc => ?_
  have hlength := h.length_le_children (h.lineage_child hl hc)
  rw [List.length_cons] at hlength
  omega

theorem subtreeWith_of_leaf (hleaf : t.childrenOf id = []) : ∀ n, t.subtreeWith n id = [id]
  | 0 => rfl
  | n + 1 => by rw [subtreeWith, hleaf, List.flatMap_nil]

/-- Any two bounds that leave room for every lineage give the same. -/
theorem subtreeWith_stable (h : t.WellFormed) : ∀ {n m id l}, t.Lineage id l →
    t.children.size ≤ n + l.length → t.children.size ≤ m + l.length →
    t.subtreeWith n id = t.subtreeWith m id
  | 0, m, id, l, hl, hn, _ => by
    have hleaf := h.childrenOf_of_size_le hl (by omega)
    rw [subtreeWith_of_leaf hleaf, subtreeWith_of_leaf hleaf]
  | n + 1, 0, id, l, hl, _, hm => by
    have hleaf := h.childrenOf_of_size_le hl (by omega)
    rw [subtreeWith_of_leaf hleaf, subtreeWith_of_leaf hleaf]
  | n + 1, m + 1, id, l, hl, hn, hm => by
    rw [subtreeWith, subtreeWith]
    refine congrArg (id :: ·) (List.flatMap_congr fun c hc => ?_)
    have hlc := h.lineage_child hl hc
    refine h.subtreeWith_stable hlc ?_ ?_ <;> rw [List.length_cons] <;> omega

theorem subtree_of_absent (h : t.WellFormed) (hget : t.get? id = none) : t.subtree id = [id] :=
  subtreeWith_of_leaf (h.childrenOf_of_absent hget) _

/-- **A subtree is its widget and the subtrees of the children, in order.** -/
theorem subtree_eq (h : t.WellFormed) (id : WidgetId) :
    t.subtree id = id :: (t.childrenOf id).flatMap t.subtree := by
  cases hget : t.get? id with
  | none => rw [h.subtree_of_absent hget, h.childrenOf_of_absent hget, List.flatMap_nil]
  | some w =>
    obtain ⟨l, hl⟩ := h.lineage hget
    have hbound : t.subtree id = t.subtreeWith (t.children.size + 1) id :=
      h.subtreeWith_stable hl (by omega) (by omega)
    rw [hbound, subtreeWith]
    rfl

theorem above_of_mem_subtreeWith (h : t.WellFormed) : ∀ {n id}, x ∈ t.subtreeWith n id →
    t.Above id x
  | 0, id, hx => by
    rw [subtreeWith, List.mem_singleton] at hx
    rw [hx]
    exact .refl t id
  | n + 1, id, hx => by
    rw [subtreeWith, List.mem_cons, List.mem_flatMap] at hx
    rcases hx with rfl | ⟨c, hc, hx⟩
    · exact .refl t x
    · exact (above_of_parentOf (h.mem_children.1 hc)).trans (h.above_of_mem_subtreeWith hx)

theorem mem_subtree_of_above (h : t.WellFormed) (hax : t.Above a x) : x ∈ t.subtree a := by
  induction hax using Relation.ReflTransGen.head_induction_on with
  | refl => rw [h.subtree_eq]; exact List.mem_cons_self
  | head hparent _ ih =>
    rw [h.subtree_eq]
    exact List.mem_cons_of_mem _ (List.mem_flatMap.2 ⟨_, h.mem_children.2 hparent, ih⟩)

/-- **A subtree holds exactly the widgets that have its widget above them.** -/
theorem mem_subtree_iff (h : t.WellFormed) : x ∈ t.subtree a ↔ t.Above a x :=
  ⟨h.above_of_mem_subtreeWith, h.mem_subtree_of_above⟩

theorem mem_subtree_trans (h : t.WellFormed) (ha : a ∈ t.subtree id) (hax : t.Above a x) :
    x ∈ t.subtree id := h.mem_subtree_iff.2 ((h.mem_subtree_iff.1 ha).trans hax)

theorem self_mem_subtree (h : t.WellFormed) (id : WidgetId) : id ∈ t.subtree id :=
  h.mem_subtree_iff.2 (.refl t id)

theorem mem_subtree_of_child (h : t.WellFormed) (hc : c ∈ t.childrenOf p) (hx : x ∈ t.subtree c) :
    x ∈ t.subtree p :=
  h.mem_subtree_iff.2 ((above_of_parentOf (h.mem_children.1 hc)).trans (h.mem_subtree_iff.1 hx))

/-! ## Paths -/

theorem parentOf_of_childNamed (h : t.WellFormed) {name : String}
    (hc : t.childNamed id name = some c) : t.parentOf c = some id :=
  h.mem_children.1 (List.mem_of_find?_eq_some hc)

theorem above_of_descend (h : t.WellFormed) : ∀ {names : List String} {id : WidgetId},
    t.descend id names = some x → t.Above id x
  | [], _, hx => by
    cases hx
    exact .refl t x
  | name :: names, id, hx => by
    rw [descend] at hx
    cases hc : t.childNamed id name with
    | none => rw [hc] at hx; cases hx
    | some c =>
      rw [hc] at hx
      exact (above_of_parentOf (h.parentOf_of_childNamed hc)).trans (h.above_of_descend hx)

theorem above_of_find? (h : t.WellFormed) {path : String} (hx : t.find? id path = some x) :
    t.Above id x := h.above_of_descend hx

theorem childNamed_congr (h : t.WellFormed) (hchildren : t'.children = t.children)
    (hsame : ∀ a, t.Above id a → t'.get? a = t.get? a) (name : String) :
    t'.childNamed id name = t.childNamed id name := by
  rw [childNamed, childNamed, childrenOf, hchildren]
  refine List.find?_congr fun c hc => ?_
  rw [hsame c (above_of_parentOf (h.mem_children.1 hc))]

/-- **A path depends on the widgets below, and on nothing else.** -/
theorem descend_congr (h : t.WellFormed) (hchildren : t'.children = t.children) :
    ∀ {names : List String} {id : WidgetId}, (∀ a, t.Above id a → t'.get? a = t.get? a) →
    t'.descend id names = t.descend id names
  | [], _, _ => rfl
  | name :: names, id, hsame => by
    rw [descend, descend, h.childNamed_congr hchildren hsame]
    cases hc : t.childNamed id name with
    | none => rfl
    | some c =>
      have hparent := above_of_parentOf (h.parentOf_of_childNamed hc)
      exact h.descend_congr hchildren fun a ha => hsame a (hparent.trans ha)

end WellFormed

/-- Child lists alone make up a subtree. -/
theorem subtreeWith_congr (hchildren : t'.children = t.children) : ∀ n id,
    t'.subtreeWith n id = t.subtreeWith n id
  | 0, _ => rfl
  | n + 1, id => by
    rw [subtreeWith, subtreeWith, childrenOf, childrenOf, hchildren]
    exact congrArg (id :: ·) (List.flatMap_congr fun c _ => subtreeWith_congr hchildren n c)

theorem subtree_congr (hchildren : t'.children = t.children) (id : WidgetId) :
    t'.subtree id = t.subtree id := by
  rw [subtree, subtree, hchildren]
  exact subtreeWith_congr hchildren _ id

end Tree

end SkinLayout
