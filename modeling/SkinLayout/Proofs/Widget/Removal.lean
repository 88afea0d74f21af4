import SkinLayout.Proofs.Widget.Subtree
/-!
# What removal takes

While a widget is being removed the links of the tree do not fit: child lists go first, and the
widgets after them.  `Pruned` describes every tree on the way by what is missing from the tree at
the start, the widgets and the child lists apart.  Removal ends when both are the subtree.
-/
namespace SkinLayout
namespace Tree

variable {t t' : Tree} {id p c a b x : WidgetId} {w : Widget} {l : List WidgetId}
variable {gone closed gone' closed' : List WidgetId}

/-! ## Siblings -/

/-- Of two widgets above a third, one is above the other. -/
theorem above_total (ha : t.Above a x) : t.Above b x → t.Above a b ∨ t.Above b a := by
  induction ha with
  | refl => exact fun hb => .inr hb
  | tail hap hparent ih =>
    intro hb
    rcases above_iff.1 hb with rfl | ⟨p, hparent', hbp⟩
    · exact .inl (hap.trans (above_of_parentOf hparent))
    · rw [hparent] at hparent'
      cases hparent'
      exact ih hbp

namespace WellFormed

theorem not_above_parent (h : t.WellFormed) (hparent : t.parentOf c = some p) : ¬ t.Above c p := by
  intro hcp
  obtain ⟨w, hget, hw⟩ := exists_of_parentOf hparent
  obtain ⟨v, hp⟩ := Option.isSome_iff_exists.1 (h.isSome_of_parentOf hparent)
  obtain ⟨l, hl⟩ := h.lineage hp
  exact hl.not_mem_parent hget hw (hl.mem_iff.2 hcp)

/-- Siblings have nothing below them in common. -/
theorem eq_of_siblings (h : t.WellFormed) (ha : t.parentOf a = some p) (hb : t.parentOf b = some p)
    (hax : t.Above a x) (hbx : t.Above b x) : a = b := by
  rcases above_total hax hbx with hab | hab
  · rcases above_iff.1 hab with hab | ⟨q, hq, haq⟩
    · exact hab.symm
    · rw [hb] at hq
      cases hq
      exact absurd haq (h.not_above_parent ha)
  · rcases above_iff.1 hab with hab | ⟨q, hq, hbq⟩
    · exact hab
    · rw [ha] at hq
      cases hq
      exact absurd hbq (h.not_above_parent hb)

end WellFormed

/-! ## One widget -/

theorem children_unlink (t : Tree) (id x : WidgetId) :
    (t.unlink id).children.get? x = if t.parentOf id = some x
      then (t.children.get? x).map fun l => l.filter (· ≠ id) else t.children.get? x := by
  have hparent : (t.get? id).bind (·.parent) = t.parentOf id := rfl
  rw [unlink, hparent]
  cases t.parentOf id with
  | none => rfl
  | some p =>
    show (t.children.modify p _).get? x = _
    rw [Table.get?_modify]
    by_cases hx : x = p
    · rw [if_pos hx, if_pos (congrArg some hx.symm)]
    · rw [if_neg hx, if_neg fun he => hx (Option.some.inj he).symm]

theorem unlink_unchanged (t : Tree) (id : WidgetId) : (t.unlink id).nextId = t.nextId ∧
    (t.unlink id).resources = t.resources ∧ (t.unlink id).alignPixels = t.alignPixels := by
  unfold unlink
  split
  · exact ⟨rfl, rfl, rfl⟩
  · exact ⟨rfl, rfl, rfl⟩

/-! ## Trees with something missing -/

/-- What is left of a tree without some widgets, and without the child lists of some. -/
structure Pruned (t : Tree) (gone closed : List WidgetId) (t' : Tree) : Prop where
  get? : ∀ x, t'.get? x = if x ∈ gone then none else t.get? x
  children : ∀ x, t'.children.get? x =
    if x ∈ closed then none else (t.children.get? x).map fun l => l.filter (· ∉ gone)
  roots : t'.roots = t.roots.filter (· ∉ gone)
  nextId : t'.nextId = t.nextId
  resources : t'.resources = t.resources
  alignPixels : t'.alignPixels = t.alignPixels

namespace Pruned

theorem refl (t : Tree) : Pruned t [] [] t where
  get? _ := (if_neg List.not_mem_nil).symm
  children x := by
    rw [if_neg List.not_mem_nil]
    cases t.children.get? x with
    | none => rfl
    | some l => exact congrArg some (List.filter_eq_self.2 fun _ _ => by simp).symm
  roots := (List.filter_eq_self.2 fun _ _ => by simp).symm
  nextId := rfl
  resources := rfl
  alignPixels := rfl

theorem parentOf (h : Pruned t gone closed t') (x : WidgetId) :
    t'.parentOf x = if x ∈ gone then none else t.parentOf x := by
  rw [Tree.parentOf, h.get?]
  by_cases hx : x ∈ gone
  · rw [if_pos hx, if_pos hx]; rfl
  · rw [if_neg hx, if_neg hx]; rfl

theorem childrenOf (h : Pruned t gone closed t') (x : WidgetId) :
    t'.childrenOf x = if x ∈ closed then [] else (t.childrenOf x).filter (· ∉ gone) := by
  rw [Tree.childrenOf, h.children]
  by_cases hx : x ∈ closed
  · rw [if_pos hx, if_pos hx]; rfl
  · rw [if_neg hx, if_neg hx, Tree.childrenOf]
    cases t.children.get? x <;> rfl

theorem congr (h : Pruned t gone closed t') (hgone : ∀ x, x ∈ gone' ↔ x ∈ gone)
    (hclosed : ∀ x, x ∈ closed' ↔ x ∈ closed) : Pruned t gone' closed' t' := by
  have hfilter : ∀ l : List WidgetId, l.filter (· ∉ gone') = l.filter (· ∉ gone) :=
    fun l => List.filter_congr fun x _ => by simp [hgone x]
  refine ⟨fun x => ?_, fun x => ?_, ?_, h.nextId, h.resources, h.alignPixels⟩
  · rw [h.get?]
    exact if_congr (hgone x).symm rfl rfl
  · rw [h.children]
    simp only [hfilter]
    exact if_congr (hclosed x).symm rfl rfl
  · rw [h.roots, hfilter]

theorem close (h : Pruned t gone closed t') (id : WidgetId) :
    Pruned t gone (id :: closed) { t' with children := t'.children.erase id } := by
  refine ⟨h.get?, fun x => ?_, h.roots, h.nextId, h.resources, h.alignPixels⟩
  show (t'.children.erase id).get? x = _
  rw [Table.get?_erase, h.children]
  by_cases hx : x = id
  · rw [if_pos hx, if_pos (List.mem_cons.2 (.inl hx))]
  · rw [if_neg hx]
    exact if_congr (by simp [hx]) rfl rfl

/-- A widget is taken out, and out of the list of its parent if that is still there. -/
theorem drop (hwf : t.WellFormed) (h : Pruned t gone closed t') (hid : id ∉ gone) :
    Pruned t (id :: gone) closed (t'.drop id) := by
  have hparent : t'.parentOf id = t.parentOf id := (h.parentOf id).trans (if_neg hid)
  have hfilter : ∀ l : List WidgetId,
      (l.filter (· ∉ gone)).filter (· ≠ id) = l.filter (· ∉ id :: gone) := by
    intro l
    rw [List.filter_filter]
    exact List.filter_congr fun x _ => by simp
  obtain ⟨hnext, hresources, halign⟩ := t'.unlink_unchanged id
  refine ⟨fun x => ?_, fun x => ?_, ?_, hnext.trans h.nextId, hresources.trans h.resources,
    halign.trans h.alignPixels⟩
  · show (t'.widgets.erase id).get? x = _
    rw [Table.get?_erase]
    by_cases hx : x = id
    · rw [if_pos hx, if_pos (List.mem_cons.2 (.inl hx))]
    · rw [if_neg hx]
      exact (h.get? x).trans (if_congr (by simp [hx]) rfl rfl)
  · show (t'.unlink id).children.get? x = _
    rw [children_unlink, hparent, h.children]
    by_cases hx : x ∈ closed
    · rw [if_pos hx, if_pos hx, Option.map_none, ite_self]
    · rw [if_neg hx, if_neg hx]
      by_cases hpx : t.parentOf id = some x
      · rw [if_pos hpx, Option.map_map]
        exact Option.map_congr fun l _ => hfilter l
      · -- the widget is not in this list, so nothing is taken out of it
        have hno : id ∉ t.childrenOf x := fun hmem => hpx (hwf.mem_children.1 hmem)
        rw [if_neg hpx]
        refine Option.map_congr fun l hl => List.filter_congr fun y hy => ?_
        have hlist : t.childrenOf x = l := by
          rw [Tree.childrenOf, hl, Option.getD_some]
        have hy' : y ≠ id := by
          rintro rfl
          exact hno (hlist ▸ hy)
        simp [hy']
  · show t'.roots.filter (· ≠ id) = _
    rw [h.roots, hfilter]

/-- What is left is well-formed again if with each widget all below it is gone. -/
theorem wellFormed (hwf : t.WellFormed) (h : Pruned t gone gone t')
    (hbelow : ∀ {a x}, t.Above a x → a ∈ gone → x ∈ gone) : t'.WellFormed := by
  refine ⟨fun {x w} hget => ?_, fun x => ?_, fun x => ?_, fun {x c} => ?_, ?_, fun {x} => ?_⟩
  · rw [h.get?] at hget
    by_cases hx : x ∈ gone
    · rw [if_pos hx] at hget; cases hget
    · rw [if_neg hx] at hget
      obtain ⟨l, hl⟩ := hwf.lineage hget
      refine ⟨l, hl.congr fun a ha => ?_⟩
      rw [h.get?, if_neg fun hgone => hx (hbelow (hl.mem_iff.1 ha) hgone)]
  · rw [h.get?, h.children]
    by_cases hx : x ∈ gone
    · rw [if_pos hx, if_pos hx]; rfl
    · rw [if_neg hx, if_neg hx, Option.isSome_map, hwf.isSome_children]
  · rw [h.childrenOf]
    by_cases hx : x ∈ gone
    · rw [if_pos hx]; exact List.nodup_nil
    · rw [if_neg hx]; exact (hwf.nodup_children x).filter _
  · rw [h.childrenOf, h.parentOf]
    by_cases hc : c ∈ gone
    · rw [if_pos hc]
      by_cases hx : x ∈ gone
      · rw [if_pos hx]; simp
      · rw [if_neg hx]; simp [hc]
    · rw [if_neg hc]
      by_cases hx : x ∈ gone
      · rw [if_pos hx]
        have hno : t.parentOf c ≠ some x := fun hp => hc (hbelow (above_of_parentOf hp) hx)
        simp [hno]
      · rw [if_neg hx, List.mem_filter, hwf.mem_children]
        simp [hc]
  · rw [h.roots]
    exact hwf.nodup_roots.filter _
  · rw [h.roots, List.mem_filter, hwf.mem_roots, h.get?]
    by_cases hx : x ∈ gone
    · rw [if_pos hx]; simp [hx]
    · rw [if_neg hx]; simp [hx]

end Pruned

/-! ## Whole subtrees -/

/-- Removing widgets one after the other, when each removal takes its subtree. -/
theorem pruned_foldl {n : Nat} : ∀ {cs : List WidgetId} {t' : Tree} {gone closed : List WidgetId},
    (∀ c ∈ cs, ∀ {t' gone closed}, Pruned t gone closed t' →
      (∀ x ∈ t.subtree c, x ∉ gone ∧ x ∉ closed) →
      Pruned t (gone ++ t.subtree c) (closed ++ t.subtree c) (t'.removeWith n c)) →
    cs.Pairwise (fun c d => ∀ x ∈ t.subtree c, x ∉ t.subtree d) → Pruned t gone closed t' →
    (∀ c ∈ cs, ∀ x ∈ t.subtree c, x ∉ gone ∧ x ∉ closed) →
    Pruned t (gone ++ cs.flatMap t.subtree) (closed ++ cs.flatMap t.subtree)
      (cs.foldl (removeWith n) t')
  | [], t', gone, closed, _, _, h, _ => by
    rw [List.flatMap_nil, List.append_nil, List.append_nil]
    exact h
  | c :: cs, t', gone, closed, hstep, hapart, h, hfree => by
    rw [List.pairwise_cons] at hapart
    have hc := hstep c List.mem_cons_self h (hfree c List.mem_cons_self)
    have hrest : ∀ d ∈ cs, ∀ x ∈ t.subtree d,
        x ∉ gone ++ t.subtree c ∧ x ∉ closed ++ t.subtree c := by
      intro d hd x hx
      have hfree' := hfree d (List.mem_cons_of_mem _ hd) x hx
      have hxc : x ∉ t.subtree c := fun hxc => hapart.1 d hd x hxc hx
      simp [hfree', hxc]
    have hcs := pruned_foldl (fun d hd => hstep d (List.mem_cons_of_mem _ hd)) hapart.2 hc hrest
    rw [List.foldl_cons, List.flatMap_cons, ← List.append_assoc, ← List.append_assoc]
    exact hcs

namespace WellFormed

theorem subtrees_apart (h : t.WellFormed) (p : WidgetId) :
    (t.childrenOf p).Pairwise fun c d => ∀ x ∈ t.subtree c, x ∉ t.subtree d := by
  refine (h.nodup_children p).imp_of_mem fun {c d} hc hd hne x hxc hxd => hne ?_
  exact h.eq_of_siblings (h.mem_children.1 hc) (h.mem_children.1 hd) (h.mem_subtree_iff.1 hxc)
    (h.mem_subtree_iff.1 hxd)

theorem not_mem_subtree_child (h : t.WellFormed) (hc : c ∈ t.childrenOf p) : p ∉ t.subtree c :=
  fun hp => h.not_above_parent (h.mem_children.1 hc) (h.mem_subtree_iff.1 hp)

/-- While nothing of its subtree is missing, a widget still has its whole list. -/
theorem children_of_free (h : t.WellFormed) (hget : (t.get? id).isSome)
    (hpruned : Pruned t gone closed t') (hfree : ∀ x ∈ t.subtree id, x ∉ gone ∧ x ∉ closed) :
    t'.children.get? id = some (t.childrenOf id) := by
  obtain ⟨cs, hcs⟩ := Option.isSome_iff_exists.1 ((h.isSome_children id).trans hget)
  have hlist : t.childrenOf id = cs := by rw [childrenOf, hcs, Option.getD_some]
  rw [hpruned.children, if_neg (hfree id (h.self_mem_subtree id)).2, hcs, hlist]
  refine congrArg some (List.filter_eq_self.2 fun c hc => ?_)
  rw [← hlist] at hc
  exact decide_eq_true (hfree c (h.mem_subtree_of_child hc (h.self_mem_subtree c))).1

/-- Removal takes all of a subtree and no more, if nothing of it is missing yet.  The lineage
counts down the bound. -/
theorem pruned_removeWith (h : t.WellFormed) : ∀ {n : Nat} {id : WidgetId} {l : List WidgetId},
    t.Lineage id l → t.children.size < n + l.length → ∀ {t' : Tree} {gone closed : List WidgetId},
    Pruned t gone closed t' → (∀ x ∈ t.subtree id, x ∉ gone ∧ x ∉ closed) →
    Pruned t (gone ++ t.subtree id) (closed ++ t.subtree id) (t'.removeWith n id)
  | 0, id, l, hl, hsize, _, _, _, _, _ => by
    have hlength := h.length_le_children hl
    omega
  | n + 1, id, l, hl, hsize, t', gone, closed, hpruned, hfree => by
    have hroom : t.children.size < n + (l.length + 1) := by omega
    have hfree' : ∀ c ∈ t.childrenOf id, ∀ x ∈ t.subtree c, x ∉ gone ∧ x ∉ id :: closed := by
      intro c hc x hx
      have hne : x ≠ id := by
        rintro rfl
        exact h.not_mem_subtree_child hc hx
      simp [hfree x (h.mem_subtree_of_child hc hx), hne]
    have hself : id ∉ gone ++ (t.childrenOf id).flatMap t.subtree := by
      rw [List.mem_append, List.mem_flatMap]
      rintro (hid | ⟨c, hc, hid⟩)
      · exact (hfree id (h.self_mem_subtree id)).1 hid
      · exact h.not_mem_subtree_child hc hid
    have hfold := pruned_foldl (fun c hc => h.pruned_removeWith (h.lineage_child hl hc) hroom)
      (h.subtrees_apart id) (hpruned.close id) hfree'
    rw [removeWith, h.children_of_free hl.isSome hpruned hfree]
    refine (hfold.drop h hself).congr (fun x => ?_) (fun x => ?_)
    · rw [h.subtree_eq]
      simp [or_left_comm]
    · rw [h.subtree_eq]
      simp [or_left_comm]

/-- **Removal takes exactly the subtree**, widgets and child lists. -/
theorem pruned_remove (h : t.WellFormed) (id : WidgetId) :
    Pruned t (t.subtree id) (t.subtree id) (t.remove id) := by
  cases hget : t.get? id with
  | some w =>
    obtain ⟨l, hl⟩ := h.lineage hget
    exact h.pruned_removeWith hl (by omega) (.refl t) fun x _ =>
      ⟨List.not_mem_nil, List.not_mem_nil⟩
  | none =>
    have hchildren := h.children_of_absent hget
    have hdrop : t.remove id = t.drop id := by
      rw [remove, removeWith, hchildren]
    have hpruned : Pruned t [id] [] (t.drop id) := (Pruned.refl t).drop h List.not_mem_nil
    rw [h.subtree_of_absent hget, hdrop]
    refine ⟨hpruned.get?, fun x => ?_, hpruned.roots, hpruned.nextId, hpruned.resources,
      hpruned.alignPixels⟩
    rw [hpruned.children]
    by_cases hx : x = id
    · rw [hx, hchildren, Option.map_none, ite_self, ite_self]
    · rw [if_neg List.not_mem_nil, if_neg (by simpa using hx)]

theorem get?_remove (h : t.WellFormed) (id x : WidgetId) :
    (t.remove id).get? x = if x ∈ t.subtree id then none else t.get? x :=
  (h.pruned_remove id).get? x

theorem get?_remove_of_above (h : t.WellFormed) (hx : t.Above id x) :
    (t.remove id).get? x = none := by
  rw [h.get?_remove, if_pos (h.mem_subtree_iff.2 hx)]

theorem get?_remove_of_not_above (h : t.WellFormed) (hx : ¬ t.Above id x) :
    (t.remove id).get? x = t.get? x := by
  rw [h.get?_remove, if_neg fun hmem => hx (h.mem_subtree_iff.1 hmem)]

/-- A widget that is left was not below the one that was removed. -/
theorem not_above_of_get?_remove (h : t.WellFormed) (hget : (t.remove id).get? x = some w) :
    ¬ t.Above id x := by
  intro hx
  rw [h.get?_remove_of_above hx] at hget
  cases hget

theorem remove (h : t.WellFormed) (id : WidgetId) : (t.remove id).WellFormed :=
  (h.pruned_remove id).wellFormed h fun hax ha => h.mem_subtree_trans ha hax

end WellFormed

end Tree

end SkinLayout
