import Mathlib.Data.List.Flatten
import Mathlib.Data.List.Forall2
import SkinLayout.Proofs.Widget.Links
/-!
# Depth-first iteration

An iterator keeps a stack of widgets: it yields the one on top and puts its children in the place of
it.  It follows child lists and has no bound, so a whole iteration is a relation here, and a
derivation is one that came to its end.  In a tree that is built step by step it yields the subtrees
of the stack from the top (`WellFormed.yields_iff`), and the order in which these stand is the order
in which the widgets were registered (`InOrder.siblings`).
-/
namespace SkinLayout
namespace Tree

variable {t t' : Tree} {id p c a b x : WidgetId} {w : Widget} {l : List WidgetId}
variable {stack stack' out out' : List WidgetId}

/-! ## The iterator -/

/-- One step, on a stack with its top at the end.  Children are pushed from the last to the first,
so that the first is next. -/
def next? (t : Tree) (stack : List WidgetId) : Option (WidgetId × List WidgetId) :=
  stack.getLast?.map fun id => (id, stack.dropLast ++ (t.childrenOf id).reverse)

theorem next?_append_singleton (t : Tree) (stack : List WidgetId) (id : WidgetId) :
    t.next? (stack ++ [id]) = some (id, stack ++ (t.childrenOf id).reverse) := by
  rw [next?, List.getLast?_concat, List.dropLast_concat, Option.map_some]

/-- The iteration from a stack ends, and yields these widgets. -/
inductive Yields (t : Tree) : List WidgetId → List WidgetId → Prop
  | stop {stack : List WidgetId} (hnext : t.next? stack = none) : Yields t stack []
  | step {stack stack' : List WidgetId} {id : WidgetId} {out : List WidgetId}
    (hnext : t.next? stack = some (id, stack')) (hrest : Yields t stack' out) :
    Yields t stack (id :: out)

theorem Yields.unique (h : t.Yields stack out) : t.Yields stack out' → out = out' := by
  induction h generalizing out' with
  | stop hnext =>
    rintro (_ | ⟨hnext', _⟩)
    · rfl
    · rw [hnext] at hnext'; cases hnext'
  | step hnext _ ih =>
    rintro (hnext' | ⟨hnext', hrest'⟩) <;> rw [hnext] at hnext' <;> cases hnext'
    rw [ih hrest']

namespace WellFormed

/-- What the subtrees of a stack hold is yielded one by one: a step takes the first of it off. -/
theorem yields (h : t.WellFormed) : ∀ {out stack : List WidgetId},
    out = stack.reverse.flatMap t.subtree → t.Yields stack out := by
  -- each step yields one widget and may push many, so what is still to come is the measure
  intro out
  induction out with
  | nil =>
    intro stack hout
    rcases List.eq_nil_or_concat stack with rfl | ⟨rest, id, rfl⟩
    · exact .stop rfl
    · rw [List.concat_eq_append, List.reverse_append, List.reverse_singleton, List.singleton_append,
        List.flatMap_cons, h.subtree_eq] at hout
      cases hout
  | cons x out ih =>
    intro stack hout
    rcases List.eq_nil_or_concat stack with rfl | ⟨rest, id, rfl⟩
    · cases hout
    · rw [List.concat_eq_append] at hout ⊢
      rw [List.reverse_append, List.reverse_singleton, List.singleton_append, List.flatMap_cons,
        h.subtree_eq, List.cons_append, List.cons.injEq] at hout
      obtain ⟨rfl, hrest⟩ := hout
      refine .step (t.next?_append_singleton rest x) (ih ?_)
      rw [hrest, List.reverse_append, List.reverse_reverse, List.flatMap_append]

/-- **An iteration ends, and yields the subtrees of its stack from the top.** -/
theorem yields_iff (h : t.WellFormed) :
    t.Yields stack out ↔ out = stack.reverse.flatMap t.subtree :=
  ⟨fun hout => hout.unique (h.yields rfl), h.yields⟩

theorem yields_roots_iff (h : t.WellFormed) : t.Yields t.roots.reverse out ↔ out = t.preorder := by
  rw [h.yields_iff, List.reverse_reverse, preorder]

theorem yields_singleton_iff (h : t.WellFormed) : t.Yields [id] out ↔ out = t.subtree id := by
  rw [h.yields_iff, List.reverse_singleton, List.flatMap_singleton]

/-- What is yielded below each root makes up what is yielded from all of them. -/
theorem yields_flatten (h : t.WellFormed) {outs : List (List WidgetId)}
    (houts : List.Forall₂ (fun r out => t.Yields [r] out) t.roots outs) :
    t.Yields t.roots.reverse outs.flatten := by
  have hpieces : List.Forall₂ (fun r out => t.subtree r = out) t.roots outs :=
    houts.imp fun r out hout => (h.yields_singleton_iff.1 hout).symm
  rw [← List.forall₂_map_left_iff, List.forall₂_eq_eq_eq] at hpieces
  rw [h.yields_roots_iff, ← hpieces, preorder, List.flatMap]

/-! ## Once each -/

/-- Two widgets with one parent, or two without, have nothing below them in common. -/
theorem eq_of_parentOf_eq (h : t.WellFormed) (hab : t.parentOf a = t.parentOf b)
    (hax : t.Above a x) (hbx : t.Above b x) : a = b := by
  cases hb : t.parentOf b with
  | some p => exact h.eq_of_siblings (hab.trans hb) hb hax hbx
  | none =>
    have ha : t.parentOf a = none := hab.trans hb
    rcases above_total hax hbx with habove | habove
    · rcases above_iff.1 habove with heq | ⟨p, hp, -⟩
      · exact heq.symm
      · rw [hb] at hp; cases hp
    · rcases above_iff.1 habove with heq | ⟨p, hp, -⟩
      · exact heq
      · rw [ha] at hp; cases hp

theorem nodup_subtreeWith (h : t.WellFormed) : ∀ n id, (t.subtreeWith n id).Nodup
  | 0, id => List.nodup_singleton id
  | n + 1, id => by
    rw [subtreeWith, List.nodup_cons, List.nodup_flatMap, List.mem_flatMap]
    refine ⟨?_, fun c _ => h.nodup_subtreeWith n c, ?_⟩
    · rintro ⟨c, hc, hid⟩
      exact h.not_above_parent (h.mem_children.1 hc) (h.above_of_mem_subtreeWith hid)
    · refine (h.nodup_children id).imp_of_mem fun {c d} hc hd hne x hxc hxd => hne ?_
      exact h.eq_of_siblings (h.mem_children.1 hc) (h.mem_children.1 hd)
        (h.above_of_mem_subtreeWith hxc) (h.above_of_mem_subtreeWith hxd)

theorem nodup_subtree (h : t.WellFormed) (id : WidgetId) : (t.subtree id).Nodup :=
  h.nodup_subtreeWith _ id

theorem nodup_preorder (h : t.WellFormed) : t.preorder.Nodup := by
  rw [preorder, List.nodup_flatMap]
  refine ⟨fun r _ => h.nodup_subtree r, ?_⟩
  refine h.nodup_roots.imp_of_mem fun {r s} hr hs hne x hxr hxs => hne ?_
  exact h.eq_of_parentOf_eq ((h.parentOf_of_mem_roots hr).trans (h.parentOf_of_mem_roots hs).symm)
    (h.mem_subtree_iff.1 hxr) (h.mem_subtree_iff.1 hxs)

theorem mem_preorder_iff (h : t.WellFormed) : x ∈ t.preorder ↔ (t.get? x).isSome := by
  rw [preorder, List.mem_flatMap]
  constructor
  · rintro ⟨r, hr, hx⟩
    obtain ⟨w, hget, -⟩ := h.mem_roots.1 hr
    exact isSome_of_above (h.mem_subtree_iff.1 hx) (by rw [hget, Option.isSome_some])
  · intro hx
    obtain ⟨w, hget⟩ := Option.isSome_iff_exists.1 hx
    obtain ⟨l, hl⟩ := h.lineage hget
    obtain ⟨r, hr, hlast⟩ := hl.exists_root h
    exact ⟨r, hr, h.mem_subtree_iff.2 (hl.mem_iff.1 (List.mem_of_getLast? hlast))⟩

/-! ## Subtrees stand together -/

theorem subtree_infix_subtree (h : t.WellFormed) (hab : t.Above a b) :
    t.subtree b <:+: t.subtree a := by
  induction hab using Relation.ReflTransGen.head_induction_on with
  | refl => exact List.infix_refl _
  | @head a c hparent _ ih =>
    have hc : t.subtree c <:+: (t.childrenOf a).flatMap t.subtree :=
      List.infix_flatMap_of_mem (h.mem_children.2 hparent) t.subtree
    rw [h.subtree_eq a]
    exact (ih.trans hc).trans (List.suffix_cons a _).isInfix

theorem subtree_infix_preorder (h : t.WellFormed) (hx : (t.get? x).isSome) :
    t.subtree x <:+: t.preorder := by
  obtain ⟨r, hr, hxr⟩ := List.mem_flatMap.1 (h.mem_preorder_iff.2 hx)
  have hroot : t.subtree r <:+: t.preorder := List.infix_flatMap_of_mem hr t.subtree
  exact (h.subtree_infix_subtree (h.mem_subtree_iff.1 hxr)).trans hroot

theorem parent_sublist_preorder (h : t.WellFormed) (hparent : t.parentOf c = some p) :
    [p, c].Sublist t.preorder := by
  have hbelow : [c].Sublist ((t.childrenOf p).flatMap t.subtree) :=
    List.singleton_sublist.2 (List.mem_flatMap.2
      ⟨c, h.mem_children.2 hparent, h.self_mem_subtree c⟩)
  have hsubtree : [p, c].Sublist (t.subtree p) := by
    rw [h.subtree_eq]
    exact hbelow.cons_cons p
  exact hsubtree.trans (h.subtree_infix_preorder (h.isSome_of_parentOf hparent)).sublist

end WellFormed

/-! ## Order of registration -/

/-- Trees built step by step, each with the widgets that are left in the order in which they were
registered. -/
inductive Registered : Tree → List WidgetId → Prop
  | ofResources (r : Resources) : Registered (.ofResources r) []
  | ofConfig (c : Config) : Registered (.ofConfig c) []
  | freshId {t : Tree} {l : List WidgetId} (h : Registered t l) : Registered t.freshId.2 l
  | addRoot {t : Tree} {l : List WidgetId} {id : WidgetId} (h : Registered t l)
    (habsent : t.get? id = none) (w : Widget) : Registered (t.addRoot id w) (l ++ [id])
  | addChild {t : Tree} {l : List WidgetId} {p id : WidgetId} (h : Registered t l)
    (habsent : t.get? id = none) (hp : (t.get? p).isSome) (w : Widget) :
    Registered (t.addChild p id w) (l ++ [id])
  | remove {t : Tree} {l : List WidgetId} (h : Registered t l) (id : WidgetId) :
    Registered (t.remove id) (l.filter fun x => ((t.remove id).get? x).isSome)
  | edit {t : Tree} {l : List WidgetId} {id : WidgetId} {f : Widget → Widget} (h : Registered t l)
    (hf : ∀ w, t.get? id = some w → (f w).parent = w.parent) : Registered (t.edit id f) l
  | withResources {t : Tree} {l : List WidgetId} (h : Registered t l) (r : Resources) :
    Registered { t with resources := r } l

theorem Registered.built (h : t.Registered l) : t.Built := by
  induction h with
  | ofResources r => exact .ofResources r
  | ofConfig c => exact .ofConfig c
  | freshId _ ih => exact .freshId ih
  | addRoot _ habsent w ih => exact .addRoot ih habsent w
  | addChild _ habsent hp w ih => exact .addChild ih habsent hp w
  | remove _ id ih => exact .remove ih id
  | edit _ hf ih => exact .edit ih hf
  | withResources _ r ih => exact .withResources ih r

theorem Built.exists_registered (h : t.Built) : ∃ l, t.Registered l := by
  induction h with
  | ofResources r => exact ⟨_, .ofResources r⟩
  | ofConfig c => exact ⟨_, .ofConfig c⟩
  | freshId _ ih => exact ih.imp fun _ hl => .freshId hl
  | addRoot _ habsent w ih => exact ih.elim fun _ hl => ⟨_, .addRoot hl habsent w⟩
  | addChild _ habsent hp w ih => exact ih.elim fun _ hl => ⟨_, .addChild hl habsent hp w⟩
  | remove _ id ih => exact ih.elim fun _ hl => ⟨_, .remove hl id⟩
  | edit _ hf ih => exact ih.imp fun _ hl => .edit hl hf
  | withResources _ r ih => exact ih.imp fun _ hl => .withResources hl r

/-- All widgets of the tree, once each; the roots and every list of children stand in this order. -/
structure InOrder (t : Tree) (l : List WidgetId) : Prop where
  nodup : l.Nodup
  mem_iff : ∀ {x}, x ∈ l ↔ (t.get? x).isSome
  roots : t.roots = l.filter fun x => (t.get? x).isSome ∧ t.parentOf x = none
  childrenOf : ∀ p, t.childrenOf p = l.filter fun x => t.parentOf x = some p

namespace InOrder

theorem empty (nextId : WidgetId) (r : Resources) (align : Bool) :
    InOrder ⟨.empty, [], .empty, nextId, r, align⟩ [] where
  nodup := List.nodup_nil
  mem_iff := by simp [get?]
  roots := rfl
  childrenOf _ := rfl

/-- What changes neither parents nor lists keeps the order. -/
theorem congr (h : t.InOrder l)
    (hparent : ∀ x, (t'.get? x).map Widget.parent = (t.get? x).map Widget.parent)
    (hchildren : ∀ x, t'.children.get? x = t.children.get? x) (hroots : t'.roots = t.roots) :
    t'.InOrder l := by
  have hsome : ∀ x, (t'.get? x).isSome = (t.get? x).isSome :=
    fun x => isSome_get?_congr (hparent x)
  have hparentOf : ∀ x, t'.parentOf x = t.parentOf x := fun x => parentOf_congr (hparent x)
  refine ⟨h.nodup, fun {x} => ?_, ?_, fun p => ?_⟩
  · rw [hsome, h.mem_iff]
  · simp only [hroots, h.roots, hsome, hparentOf]
  · have hlist : t'.childrenOf p = t.childrenOf p := by
      rw [Tree.childrenOf, Tree.childrenOf, hchildren]
    simp only [hlist, h.childrenOf, hparentOf]

/-- A new widget is the last one. -/
theorem added (h : t.InOrder l) (hwf : t.WellFormed) (hadd : t.Added id w t')
    (habsent : t.get? id = none) (hself : w.parent ≠ some id) : t'.InOrder (l ++ [id]) := by
  have hid : id ∉ l := by
    rw [h.mem_iff, habsent]
    exact Bool.false_ne_true
  have hold : ∀ x ∈ l, t'.get? x = t.get? x := by
    intro x hx
    have hne : x ≠ id := by
      rintro rfl
      exact hid hx
    rw [hadd.get?, if_neg hne]
  have hparentOf : ∀ x ∈ l, t'.parentOf x = t.parentOf x := by
    intro x hx
    rw [parentOf, parentOf, hold x hx]
  have hnew : t'.get? id = some w := (hadd.get? id).trans (if_pos rfl)
  have hnewParent : t'.parentOf id = w.parent := parentOf_of_get? hnew
  refine ⟨?_, fun {x} => ?_, ?_, fun p => ?_⟩
  · rw [← List.concat_eq_append]
    exact h.nodup.concat hid
  · rw [List.mem_append, List.mem_singleton, h.mem_iff, hadd.get?]
    by_cases hx : x = id
    · simp [hx]
    · simp [hx]
  · have hfilter : (l.filter fun x => (t'.get? x).isSome ∧ t'.parentOf x = none) = t.roots := by
      rw [h.roots]
      exact List.filter_congr fun x hx => by rw [hold x hx, hparentOf x hx]
    rw [hadd.roots, List.filter_append, hfilter]
    by_cases hw : w.parent = none
    · simp [hw, hnew, hnewParent]
    · simp [hw, hnew, hnewParent]
  · have hfilter : (l.filter fun x => t'.parentOf x = some p) = t.childrenOf p := by
      rw [h.childrenOf]
      exact List.filter_congr fun x hx => by rw [hparentOf x hx]
    rw [hadd.childrenOf, List.filter_append, hfilter]
    by_cases hp : p = id
    · subst hp
      have hnone : t.childrenOf p = [] := hwf.childrenOf_of_absent habsent
      simp [hnone, hnewParent, hself]
    · rw [if_neg hp]
      by_cases hw : w.parent = some p
      · simp [hw, hnewParent]
      · simp [hw, hnewParent]

/-- What is left of a tree stands in the old order. -/
theorem pruned {gone : List WidgetId} (h : t.InOrder l) (hpruned : Pruned t gone gone t')
    (hbelow : ∀ {a x}, t.Above a x → a ∈ gone → x ∈ gone) :
    t'.InOrder (l.filter fun x => (t'.get? x).isSome) := by
  refine ⟨h.nodup.filter _, fun {x} => ?_, ?_, fun p => ?_⟩
  · rw [List.mem_filter, h.mem_iff, hpruned.get?]
    by_cases hx : x ∈ gone
    · simp [hx]
    · simp [hx]
  · rw [hpruned.roots, h.roots, List.filter_filter, List.filter_filter]
    refine List.filter_congr fun x hx => ?_
    rw [hpruned.parentOf, hpruned.get?]
    by_cases hxg : x ∈ gone
    · simp [hxg]
    · simp [hxg, h.mem_iff.1 hx]
  · rw [hpruned.childrenOf, h.childrenOf, List.filter_filter]
    by_cases hp : p ∈ gone
    · -- what named a parent that is gone is gone with it
      rw [if_pos hp]
      refine (List.filter_eq_nil_iff.2 fun x _ hx => ?_).symm
      have hx' : t'.parentOf x = some p := of_decide_eq_true hx
      rw [hpruned.parentOf] at hx'
      by_cases hxg : x ∈ gone
      · rw [if_pos hxg] at hx'; cases hx'
      · rw [if_neg hxg] at hx'
        exact hxg (hbelow (above_of_parentOf hx') hp)
    · rw [if_neg hp, List.filter_filter]
      refine List.filter_congr fun x hx => ?_
      rw [hpruned.parentOf, hpruned.get?]
      by_cases hxg : x ∈ gone
      · simp [hxg]
      · simp [hxg, h.mem_iff.1 hx]

end InOrder

theorem Registered.inOrder (h : t.Registered l) : t.InOrder l := by
  induction h with
  | ofResources r => exact .empty _ _ _
  | ofConfig c => exact .empty _ _ _
  | freshId _ ih => exact ih.congr (fun _ => rfl) (fun _ => rfl) rfl
  | @addRoot t l id hreg habsent w ih =>
    exact ih.added hreg.built.wellFormed (t.added_addRoot id w) habsent fun hself => (by cases hself)
  | @addChild t l p id hreg habsent hp w ih =>
    refine ih.added hreg.built.wellFormed (t.added_addChild p id w) habsent fun hself => ?_
    cases hself
    rw [habsent] at hp
    cases hp
  | @remove t l hreg id ih =>
    have hwf := hreg.built.wellFormed
    exact ih.pruned (hwf.pruned_remove id) fun hax ha => hwf.mem_subtree_trans ha hax
  | edit _ hf ih => exact ih.congr (parent_get?_edit hf) (fun _ => rfl) rfl
  | withResources _ r ih => exact ih.congr (fun _ => rfl) (fun _ => rfl) rfl

/-! ## Depth-first order -/

/-- What depth-first iteration yields in a tree, given the order in which its widgets were
registered. -/
structure DepthFirst (t : Tree) (l : List WidgetId) : Prop extends t.InOrder l where
  yields_iff : ∀ out, t.Yields t.roots.reverse out ↔ out = t.preorder
  nodup_preorder : t.preorder.Nodup
  mem_preorder : ∀ x, x ∈ t.preorder ↔ x ∈ t.widgets.keys
  parent_first : ∀ {c p}, t.parentOf c = some p → [p, c].Sublist t.preorder
  whole : ∀ x ∈ t.widgets.keys, t.subtree x <:+: t.preorder
  siblings : ∀ {a b}, t.parentOf a = t.parentOf b → [a, b].Sublist l →
    (t.subtree a ++ t.subtree b).Sublist t.preorder
  yields_below_iff : ∀ id out, t.Yields [id] out ↔ out = t.subtree id
  yields_flatten : ∀ outs, List.Forall₂ (fun r out => t.Yields [r] out) t.roots outs →
    t.Yields t.roots.reverse outs.flatten
  head_subtree : ∀ id, (t.subtree id).head? = some id
  nodup_subtree : ∀ id, (t.subtree id).Nodup
  mem_subtree : ∀ id x, x ∈ t.subtree id ↔ t.Above id x

namespace InOrder

theorem subset_of_pair (h : t.InOrder l) (hab : [a, b].Sublist l) :
    (t.get? a).isSome ∧ (t.get? b).isSome :=
  ⟨h.mem_iff.1 (hab.subset List.mem_cons_self),
    h.mem_iff.1 (hab.subset (List.mem_cons_of_mem _ List.mem_cons_self))⟩

/-- Of two siblings, or two roots, the one that was registered first comes first with all below
it. -/
theorem siblings (h : t.InOrder l) (hwf : t.WellFormed) (hparent : t.parentOf a = t.parentOf b)
    (hab : [a, b].Sublist l) : (t.subtree a ++ t.subtree b).Sublist t.preorder := by
  obtain ⟨ha, hb⟩ := h.subset_of_pair hab
  have hpair : [a, b].flatMap t.subtree = t.subtree a ++ t.subtree b := by
    rw [List.flatMap_cons, List.flatMap_singleton]
  rw [← hpair]
  cases hp : t.parentOf b with
  | none =>
    have hroots : [a, b].Sublist t.roots := by
      rw [h.roots]
      have hfilter := hab.filter fun x => (t.get? x).isSome ∧ t.parentOf x = none
      simpa [ha, hb, hparent.trans hp, hp] using hfilter
    exact hroots.flatMap t.subtree
  | some p =>
    have hchildren : [a, b].Sublist (t.childrenOf p) := by
      rw [h.childrenOf]
      have hfilter := hab.filter fun x => t.parentOf x = some p
      simpa [hparent.trans hp, hp] using hfilter
    have hsubtree : ([a, b].flatMap t.subtree).Sublist (t.subtree p) := by
      rw [hwf.subtree_eq p]
      exact (hchildren.flatMap t.subtree).trans (List.sublist_cons_self p _)
    exact hsubtree.trans (hwf.subtree_infix_preorder (hwf.isSome_of_parentOf hp)).sublist

theorem toDepthFirst (h : t.InOrder l) (hwf : t.WellFormed) : t.DepthFirst l where
  toInOrder := h
  yields_iff _ := hwf.yields_roots_iff
  nodup_preorder := hwf.nodup_preorder
  mem_preorder _ := hwf.mem_preorder_iff.trans Table.mem_keys_iff.symm
  parent_first := hwf.parent_sublist_preorder
  whole _ hx := hwf.subtree_infix_preorder (Table.mem_keys_iff.1 hx)
  siblings := h.siblings hwf
  yields_below_iff _ _ := hwf.yields_singleton_iff
  yields_flatten _ := hwf.yields_flatten
  head_subtree id := by rw [hwf.subtree_eq, List.head?_cons]
  nodup_subtree := hwf.nodup_subtree
  mem_subtree _ _ := hwf.mem_subtree_iff

end InOrder

/-- **Depth-first iteration ends and is complete and exact** in every tree that is built step by
step: it yields each widget once, after its parent, and each subtree in one piece; pieces of siblings
and of roots come in the order in which these were registered. -/
theorem Built.depthFirst (h : t.Built) :
    (∃ l, t.Registered l) ∧ ∀ l, t.Registered l → t.DepthFirst l :=
  ⟨h.exists_registered, fun _ hl => hl.inOrder.toDepthFirst h.wellFormed⟩

/-- Two roots, a child of the first that has a child, one more child of each, and the second root
without its child again. -/
def twoRoots : Tree :=
  ((((((Tree.ofResources (.ofDisplay ⟨300, 200⟩)).addRoot 1 (.named "left")).addRoot 2
    (.named "right")).addChild 1 3 (.named "panel")).addChild 2 4 (.named "panel")).addChild 1 5
    (.named "label")).addChild 3 6 (.named "icon") |>.remove 4

theorem twoRoots_depthFirst : twoRoots.Built ∧ twoRoots.Registered [1, 2, 3, 5, 6] ∧
    twoRoots.Yields [2, 1] [1, 3, 6, 5, 2] ∧ twoRoots.Yields [1] [1, 3, 6, 5] ∧
    [3, 6, 5].Sublist twoRoots.preorder := by
  have hregistered : twoRoots.Registered [1, 2, 3, 5, 6] :=
    .remove (.addChild (.addChild (.addChild (.addChild (.addRoot (.addRoot (.ofResources _) rfl _)
      rfl _) rfl rfl _) rfl rfl _) rfl rfl _) rfl rfl _) 4
  have horder := (Built.depthFirst hregistered.built).2 _ hregistered
  have hsiblings : [3, 5].Sublist [1, 2, 3, 5, 6] := by decide
  exact ⟨hregistered.built, hregistered, (horder.yields_iff _).2 rfl,
    (horder.yields_below_iff 1 _).2 rfl, horder.siblings rfl hsiblings⟩

end Tree

end SkinLayout
