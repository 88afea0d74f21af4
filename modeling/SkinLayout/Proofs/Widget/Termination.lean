import SkinLayout.Proofs.Widget.Removal
/-!
# Removal ends in every tree

A number that is used again leaves links that do not fit: a list may name a widget twice, or one
that is not there, or one that stands above its owner.  Removal has a bound in this library, so
removal without one is a relation here (`Tree.Removes`), and a derivation is a removal that came to
its end.  A list is taken out of the tree before it is followed, so every call that removal makes is
paid for by an entry that is gone (`Removes.calls_add_listed_le`).  That is why it ends
(`exists_removes`), whatever the links say.
-/
namespace SkinLayout

/-! ## Tables of lists -/

namespace Table

variable {κ α : Type}

/-- The lists of a table put together. -/
def joined (t : Table κ (List α)) : List α := t.entries.flatMap Prod.snd

variable [DecidableEq κ] {t : Table κ α} {k : κ} {a : α}

theorem keys_erase_subset (t : Table κ α) (k : κ) : (t.erase k).keys ⊆ t.keys :=
  (List.filter_sublist.map Prod.fst).subset

theorem perm_cons_erase (hget : t.get? k = some a) :
    t.entries.Perm ((k, a) :: (t.erase k).entries) := by
  have hnodup : ((k, a) :: (t.erase k).entries).Nodup := (t.insert k a).nodup.of_map
  refine (List.perm_ext_iff_of_nodup t.nodup.of_map hnodup).2 fun ⟨j, b⟩ => ?_
  rw [List.mem_cons, ← get?_eq_some_iff, ← get?_eq_some_iff, get?_erase]
  by_cases hj : j = k
  · rw [if_pos hj, hj, hget]
    simp [eq_comm]
  · rw [if_neg hj]
    simp [hj]

theorem size_erase (hget : t.get? k = some a) : (t.erase k).size + 1 = t.size :=
  (perm_cons_erase hget).length_eq.symm

section Joined

variable {t : Table κ (List α)} {l : List α} {g : List α → List α}

theorem length_joined_erase (hget : t.get? k = some l) :
    l.length + (t.erase k).joined.length = t.joined.length := by
  have hlength := ((perm_cons_erase hget).flatMap_right Prod.snd).length_eq
  rw [List.flatMap_cons, List.length_append] at hlength
  exact hlength.symm

theorem length_joined_modify_le (hg : ∀ l, (g l).length ≤ l.length) :
    (t.modify k g).joined.length ≤ t.joined.length := by
  rw [modify]
  split
  · exact le_rfl
  · next l hget =>
    calc (t.insert k (g l)).joined.length = (g l).length + (t.erase k).joined.length :=
          List.length_append
      _ ≤ l.length + (t.erase k).joined.length := Nat.add_le_add_right (hg l) _
      _ = t.joined.length := length_joined_erase hget

end Joined

end Table

namespace Tree

variable {t t' t'' : Tree} {id : WidgetId} {ids l : List WidgetId} {n : Nat}

/-! ## Removal without a bound -/

/-- Takes the list of a widget out, before it is followed. -/
def close (t : Tree) (id : WidgetId) : Tree := { t with children := t.children.erase id }

/-- Removing widgets one after the other takes this many calls, and ends with this tree. -/
inductive Removes : Tree → List WidgetId → Nat → Tree → Prop
  | nil (t : Tree) : Removes t [] 0 t
  | leaf {t t' : Tree} {id : WidgetId} {ids : List WidgetId} {n : Nat}
    (hlist : t.children.get? id = none) (hrest : Removes (t.drop id) ids n t') :
    Removes t (id :: ids) (n + 1) t'
  | branch {t t' t'' : Tree} {id : WidgetId} {l ids : List WidgetId} {m n : Nat}
    (hlist : t.children.get? id = some l) (hl : Removes (t.close id) l m t')
    (hrest : Removes (t'.drop id) ids n t'') : Removes t (id :: ids) (m + n + 1) t''

/-! ## Nothing is new -/

/-- Nothing is new in the first tree: its widgets are as they were in the second, and its lists have
at most what they had there, in the old order. -/
structure Within (t' t : Tree) : Prop where
  widgets_keys : t'.widgets.keys ⊆ t.widgets.keys
  children_keys : t'.children.keys ⊆ t.children.keys
  get? : ∀ x ∈ t'.widgets.keys, t'.get? x = t.get? x
  childrenOf : ∀ x, (t'.childrenOf x).Sublist (t.childrenOf x)
  roots : t'.roots.Sublist t.roots

namespace Within

theorem refl (t : Tree) : t.Within t where
  widgets_keys := List.Subset.refl _
  children_keys := List.Subset.refl _
  get? _ _ := rfl
  childrenOf _ := .refl _
  roots := .refl _

theorem trans (h : t''.Within t') (h' : t'.Within t) : t''.Within t where
  widgets_keys := List.Subset.trans h.widgets_keys h'.widgets_keys
  children_keys := List.Subset.trans h.children_keys h'.children_keys
  get? x hx := (h.get? x hx).trans (h'.get? x (h.widgets_keys hx))
  childrenOf x := (h.childrenOf x).trans (h'.childrenOf x)
  roots := h.roots.trans h'.roots

theorem size_children_le (h : t'.Within t) : t'.children.size ≤ t.children.size := by
  have hlength := Table.length_le_size t'.children.nodup fun x hx =>
    Table.mem_keys_iff.1 (h.children_keys hx)
  rwa [List.length_map] at hlength

end Within

theorem within_close (t : Tree) (id : WidgetId) : (t.close id).Within t where
  widgets_keys := List.Subset.refl _
  children_keys := t.children.keys_erase_subset id
  get? _ _ := rfl
  childrenOf x := by
    show (((t.children.erase id).get? x).getD []).Sublist _
    rw [Table.get?_erase]
    split
    · exact List.nil_sublist _
    · exact .refl _
  roots := .refl _

theorem within_drop (t : Tree) (id : WidgetId) : (t.drop id).Within t where
  widgets_keys := t.widgets.keys_erase_subset id
  children_keys x hx := by
    have hx : ((t.unlink id).children.get? x).isSome := Table.mem_keys_iff.1 hx
    rw [children_unlink] at hx
    split at hx
    · rw [Option.isSome_map] at hx
      exact Table.mem_keys_iff.2 hx
    · exact Table.mem_keys_iff.2 hx
  get? x hx := by
    have hne : x ≠ id := fun he => t.widgets.not_mem_keys_erase id (he ▸ hx)
    exact (t.widgets.get?_erase id x).trans (if_neg hne)
  childrenOf x := by
    show (((t.unlink id).children.get? x).getD []).Sublist ((t.children.get? x).getD [])
    rw [children_unlink]
    split
    · cases t.children.get? x with
      | none => exact .refl _
      | some l => exact List.filter_sublist
    · exact .refl _
  roots := List.filter_sublist

theorem Removes.within (h : t.Removes ids n t') : t'.Within t := by
  induction h with
  | nil t => exact .refl t
  | leaf _ _ ih => exact ih.trans (within_drop _ _)
  | branch _ _ _ ihl ihrest =>
    exact ihrest.trans ((within_drop _ _).trans (ihl.trans (within_close _ _)))

/-! ## Nothing of the widget is left -/

/-- Nothing is new in the second tree, and there is no trace of the widget in it. -/
structure Cleared (t : Tree) (id : WidgetId) (t' : Tree) : Prop extends Within t' t where
  not_mem_widgets : id ∉ t'.widgets.keys
  not_mem_children : id ∉ t'.children.keys
  not_mem_roots : id ∉ t'.roots

/-- A widget without a list leaves no trace when it is dropped. -/
theorem Within.cleared_drop (h : t'.Within t) (hlist : id ∉ t'.children.keys) :
    t.Cleared id (t'.drop id) where
  toWithin := (within_drop t' id).trans h
  not_mem_widgets := t'.widgets.not_mem_keys_erase id
  not_mem_children hid := hlist ((within_drop t' id).children_keys hid)
  not_mem_roots hid := of_decide_eq_true (List.mem_filter.1 hid).2 rfl

theorem Removes.cleared (h : t.Removes [id] n t') : t.Cleared id t' := by
  cases h with
  | leaf hlist hrest =>
    cases hrest
    refine (Within.refl t).cleared_drop fun hid => ?_
    rw [Table.mem_keys_iff, hlist] at hid
    cases hid
  | branch hlist hl hrest =>
    cases hrest
    -- the list is taken out at the start, and what follows puts no list back
    refine (hl.within.trans (within_close t id)).cleared_drop fun hid => ?_
    exact t.children.not_mem_keys_erase id (hl.within.children_keys hid)

/-! ## Why it ends -/

/-- How many entries the child lists have together. -/
def listed (t : Tree) : Nat := t.children.joined.length

/-- A list that is taken out takes its entries along. -/
theorem listed_close (hlist : t.children.get? id = some l) :
    l.length + (t.close id).listed = t.listed := Table.length_joined_erase hlist

theorem listed_drop_le (t : Tree) (id : WidgetId) : (t.drop id).listed ≤ t.listed := by
  show (t.unlink id).children.joined.length ≤ t.listed
  rw [unlink]
  split
  · exact le_rfl
  · exact Table.length_joined_modify_le fun l => List.length_filter_le _ l

/-- **Every call is one that was asked for, or is paid for by an entry that is gone.** -/
theorem Removes.calls_add_listed_le (h : t.Removes ids n t') :
    n + t'.listed ≤ ids.length + t.listed := by
  induction h with
  | nil t => exact le_rfl
  | @leaf t t' id ids n hlist _ ih =>
    have hdrop := t.listed_drop_le id
    rw [List.length_cons]
    omega
  | @branch t t' t'' id l ids m n hlist _ _ ihl ihrest =>
    have hclose := listed_close hlist
    have hdrop := t'.listed_drop_le id
    rw [List.length_cons]
    omega

/-- **Removal ends.**  The measure is what is asked for together with what is listed: a list that is
taken out moves from the one to the other, and each call uses up one that was asked for. -/
theorem exists_removes (t : Tree) : ∀ ids : List WidgetId, ∃ n t', t.Removes ids n t'
  | [] => ⟨0, t, .nil t⟩
  | id :: ids => by
    cases hlist : t.children.get? id with
    | none =>
      have hdrop := t.listed_drop_le id
      obtain ⟨n, t', hrest⟩ := exists_removes (t.drop id) ids
      exact ⟨n + 1, t', .leaf hlist hrest⟩
    | some l =>
      have hclose := listed_close hlist
      obtain ⟨m, t', hl⟩ := exists_removes (t.close id) l
      -- the calls for the list cost no more than its entries, so the rest of the loop has less left
      have hcalls := hl.calls_add_listed_le
      have hdrop := t'.listed_drop_le id
      obtain ⟨n, t'', hrest⟩ := exists_removes (t'.drop id) ids
      exact ⟨m + n + 1, t'', .branch hlist hl hrest⟩
termination_by ids => ids.length + t.listed
decreasing_by all_goals rw [List.length_cons]; omega

/-! ## The bound is never met -/

theorem removeWith_of_leaf (hlist : t.children.get? id = none) (n : Nat) :
    t.removeWith (n + 1) id = t.drop id := by
  rw [removeWith, hlist]

theorem removeWith_of_branch (hlist : t.children.get? id = some l) (n : Nat) :
    t.removeWith (n + 1) id = (l.foldl (removeWith n) (t.close id)).drop id := by
  rw [removeWith, hlist]
  rfl

/-- Every bound above the number of lists leaves removal as it is without one. -/
theorem Removes.foldl_removeWith (h : t.Removes ids n t') :
    ∀ {k}, t.children.size < k → ids.foldl (removeWith k) t = t' := by
  induction h with
  | nil t => exact fun _ => rfl
  | @leaf t t' id ids n hlist _ ih =>
    rintro (_ | k) hk
    · omega
    · have hdrop := (t.within_drop id).size_children_le
      rw [List.foldl_cons, removeWith_of_leaf hlist]
      exact ih (by omega)
  | @branch t t' t'' id l ids m n hlist hl _ ihl ihrest =>
    rintro (_ | k) hk
    · omega
    · have hclose : (t.close id).children.size + 1 = t.children.size := Table.size_erase hlist
      have hdrop := ((t'.within_drop id).trans hl.within).size_children_le
      rw [List.foldl_cons, removeWith_of_branch hlist, ihl (by omega)]
      exact ihrest (by omega)

theorem Removes.eq_remove (h : t.Removes [id] n t') : t' = t.remove id :=
  (h.foldl_removeWith (Nat.lt_succ_self _)).symm

theorem Removes.calls_le (h : t.Removes [id] n t') : n ≤ t.listed + 1 := by
  have hcalls := h.calls_add_listed_le
  rw [List.length_singleton] at hcalls
  omega

/-- **Removal ends in every tree**, whatever its links say.  Without a bound it makes at most one
call for each entry of a list, besides the first; it ends with the one tree of `remove`; and in that
nothing is new and there is no trace of the widget. -/
theorem remove_ends (t : Tree) (id : WidgetId) : (∃ n, t.Removes [id] n (t.remove id)) ∧
    (∀ n t', t.Removes [id] n t' → n ≤ t.listed + 1 ∧ t' = t.remove id) ∧
    t.Cleared id (t.remove id) := by
  obtain ⟨n, t', h⟩ := t.exists_removes [id]
  obtain rfl := h.eq_remove
  exact ⟨⟨n, h⟩, fun n t' h => ⟨h.calls_le, h.eq_remove⟩, h.cleared⟩

/-- Numbers that were used again: a panel that is a root twice and lists a part twice, and a part
that stands above and below another. -/
def tangled : Tree :=
  ((((((Tree.ofResources (.ofDisplay ⟨300, 200⟩)).addRoot 1 (.named "panel")).addRoot 1
    (.named "panel")).addChild 1 2 (.named "left")).addChild 1 2 (.named "left")).addChild 2 3
    (.named "right")).addChild 3 2 (.named "left")

example : tangled.roots = [1, 1] ∧ tangled.childrenOf 1 = [2, 2] ∧ tangled.childrenOf 3 = [2] ∧
    tangled.parentOf 2 = some 3 ∧ tangled.parentOf 3 = some 2 ∧
    (tangled.remove 1).widgets.keys = [3] ∧ (tangled.remove 3).childrenOf 1 = [2, 2] := by
  decide

end Tree

end SkinLayout
