import SkinLayout.Proofs.Cache.Invalidation
import SkinLayout.Proofs.Widget.Removal
/-!
# Asking for a widget that is gone

A widget that is not in the tree has no rectangle, and a request for it is refused; but the cache is
asked before the tree, and it may not have been told of the removal.  So a removed widget is refused
exactly where no rectangle of the same area is kept, and what is kept was computed while the widget
was there.  Any call that tells the cache of a change makes it forget a widget that is gone, until
the number is used again (`Session.absent_answer`).
-/
namespace SkinLayout

/-- Removal adds no widget, whatever the links are. -/
theorem Tree.removeWith_absent {x : WidgetId} : ∀ {n : Nat} {t : Tree} {id : WidgetId},
    t.get? x = none → (t.removeWith n id).get? x = none
  | 0, _, _, h => h
  | n + 1, t, id, h => by
    have hdrop : ∀ {u : Tree}, u.get? x = none → (u.drop id).get? x = none := by
      intro u hu
      show (u.widgets.erase id).get? x = none
      rw [Table.get?_erase]
      split
      · rfl
      · exact hu
    have hchildren : ∀ (l : List WidgetId) {u : Tree}, u.get? x = none →
        (l.foldl (removeWith n) u).get? x = none := by
      intro l
      induction l with
      | nil => exact fun hu => hu
      | cons c l ih => exact fun hu => ih (removeWith_absent hu)
    unfold removeWith
    split
    · exact hdrop h
    · exact hdrop (hchildren _ h)

/-- A subtree has its own top, whatever the links are. -/
theorem Tree.top_mem_subtree (t : Tree) (id : WidgetId) : id ∈ t.subtree id := by
  unfold subtree
  cases t.children.size with
  | zero => exact List.mem_singleton_self id
  | succ n => exact List.mem_cons_self

theorem Cache.compute_absent {t : Tree} {id : WidgetId} (h : t.get? id = none) (area : Area) :
    (compute t id area).result = .error (.invalidRequest (.unknownWidget id)) := by
  have hview : t.view? id = none := by rw [Tree.view?, h, Option.map_none]
  unfold compute
  rw [hview]
  rfl

/-- A call on a tree or on the cache beside it. -/
inductive Action where
  | addRoot (id : WidgetId) (w : Widget)
  | addChild (parent id : WidgetId) (w : Widget)
  | remove (id : WidgetId)
  | setArea (id : WidgetId) (area : UnifiedRect)
  | resolve (id : WidgetId) (name : String) (area : Area)
  | fontResized (font : String)
  | invalidate (id : WidgetId)
  | clear

namespace Action

/-- The call uses the number for a new widget. -/
def Adds (id : WidgetId) : Action → Prop
  | .addRoot i _ => i = id
  | .addChild _ i _ => i = id
  | _ => False

/-- The call tells the cache of a change that may concern the widget. -/
def Tells (id : WidgetId) : Action → Prop
  | .fontResized _ => True
  | .invalidate i => i = id
  | .clear => True
  | _ => False

end Action

/-- A tree and its cache, which is told of nothing unless a call tells it. -/
structure Session where
  tree : Tree
  cache : Cache

namespace Session

def start (t : Tree) : Session := ⟨t, .empty⟩

def act (s : Session) : Action → Session
  | .addRoot id w => { s with tree := s.tree.addRoot id w }
  | .addChild parent id w => { s with tree := s.tree.addChild parent id w }
  | .remove id => { s with tree := s.tree.remove id }
  | .setArea id area => { s with tree := s.tree.setArea id area }
  | .resolve id name area => { s with cache := (s.cache.resolve s.tree id name area).value.2 }
  | .fontResized font => { s with cache := (s.cache.fontResized s.tree font).value.2 }
  | .invalidate id => { s with cache := (s.cache.invalidate s.tree id).value.2 }
  | .clear => { s with cache := .empty }

def run (s : Session) (actions : List Action) : Session := actions.foldl act s

/-- What a request is answered. -/
def answer (s : Session) (id : WidgetId) (name : String) (area : Area) : Except LayoutError Rect :=
  (s.cache.resolve s.tree id name area).value.1

/-- A rectangle is kept under the name, and it is one of the same area. -/
def Keeps (s : Session) (id : WidgetId) (name : String) (area : Area) : Prop :=
  ∃ a r, s.cache.entries.get? (id, name) = some (a, r) ∧ (a == area) = true

variable {s : Session} {id : WidgetId} {name : String} {area a : Area} {r : Rect} {x : Action}

theorem run_append (s : Session) (before after : List Action) :
    s.run (before ++ after) = (s.run before).run after := List.foldl_append

/-! ## Where entries come from -/

/-- After a call an entry is an old one, or it is of the request that was just answered. -/
theorem entry_act (h : (s.act x).cache.entries.get? (id, name) = some (a, r)) :
    s.cache.entries.get? (id, name) = some (a, r) ∨
      x = .resolve id name a ∧ ∃ v, s.tree.view? id = some v ∧ (a.pixelRect v).result = .ok r := by
  cases x with
  | addRoot | addChild | remove | setArea => exact .inl h
  | resolve i n b =>
    change (s.cache.resolve s.tree i n b).value.2.entries.get? (id, name) = some (a, r) at h
    rcases s.cache.resolve_cases s.tree i n b with hsame | ⟨v, r', hv, hr, hstore⟩
    · exact .inl (hsame ▸ h)
    · rw [hstore, Cache.get?_store] at h
      by_cases hk : (id, name) = (i, n)
      · rw [if_pos hk] at h
        cases hk
        cases h
        exact .inr ⟨rfl, v, hv, hr⟩
      · rw [if_neg hk] at h
        exact .inl h
  | fontResized font =>
    change (s.cache.fontResized s.tree font).value.2.entries.get? (id, name) = some (a, r) at h
    rw [Cache.get?_fontResized, Option.filter_eq_some_iff] at h
    exact .inl h.1
  | invalidate i =>
    change (s.cache.invalidate s.tree i).value.2.entries.get? (id, name) = some (a, r) at h
    rw [Cache.get?_invalidate] at h
    split at h
    · cases h
    · exact .inl h
  | clear => cases h

/-- The request that an entry is of was answered in the run, when the widget was there. -/
theorem entry_run {t : Tree} {actions : List Action}
    (h : ((start t).run actions).cache.entries.get? (id, name) = some (a, r)) :
    ∃ before after v, actions = before ++ .resolve id name a :: after ∧
      ((start t).run before).tree.view? id = some v ∧ (a.pixelRect v).result = .ok r := by
  induction actions using List.reverseRecOn with
  | nil => cases h
  | append_singleton actions x ih =>
    rw [run_append] at h
    rcases entry_act h with h | ⟨rfl, v, hv, hr⟩
    · obtain ⟨before, after, v, rfl, hv, hr⟩ := ih h
      exact ⟨before, after ++ [x], v, by rw [List.append_assoc, List.cons_append], hv, hr⟩
    · exact ⟨actions, [], v, rfl, hv, hr⟩

/-! ## Widgets that are forgotten -/

/-- There is no such widget, and nothing is kept for it. -/
structure Forgotten (s : Session) (id : WidgetId) : Prop where
  absent : s.tree.get? id = none
  no_entry : ∀ name, s.cache.entries.get? (id, name) = none

theorem absent_act (h : s.tree.get? id = none) (hx : ¬ x.Adds id) :
    (s.act x).tree.get? id = none := by
  cases x with
  | addRoot i w => exact (s.tree.get?_addRoot i w id).trans ((if_neg (Ne.symm hx)).trans h)
  | addChild p i w => exact (s.tree.get?_addChild p i w id).trans ((if_neg (Ne.symm hx)).trans h)
  | remove i => exact Tree.removeWith_absent h
  | setArea i area =>
    show (s.tree.setArea i area).get? id = none
    rw [Tree.get?_setArea, h, Option.map_none, ite_self]
  | resolve | fontResized | invalidate | clear => exact h

namespace Forgotten

/-- A widget that is gone is forgotten once the cache is told. -/
theorem of_told (h : s.tree.get? id = none) (hx : x.Tells id) : (s.act x).Forgotten id := by
  cases x with
  | fontResized font =>
    refine ⟨h, fun name => ?_⟩
    have hview : s.tree.view? id = none := by rw [Tree.view?, h, Option.map_none]
    show (s.cache.fontResized s.tree font).value.2.entries.get? (id, name) = none
    rw [Cache.get?_fontResized, Option.filter_eq_none_iff]
    simp [Cache.survivesFont, hview]
  | invalidate i =>
    obtain rfl : i = id := hx
    refine ⟨h, fun name => ?_⟩
    show (s.cache.invalidate s.tree i).value.2.entries.get? (i, name) = none
    rw [Cache.get?_invalidate, if_pos (s.tree.top_mem_subtree i)]
  | clear => exact ⟨h, fun _ => rfl⟩
  | addRoot | addChild | remove | setArea | resolve => exact hx.elim

/-- Nothing is kept for a widget that is forgotten, until there is one again. -/
theorem act (h : s.Forgotten id) (hx : ¬ x.Adds id) : (s.act x).Forgotten id := by
  refine ⟨absent_act h.absent hx, fun name => ?_⟩
  cases he : (s.act x).cache.entries.get? (id, name) with
  | none => rfl
  | some e =>
    rcases entry_act he with hold | ⟨-, v, hv, -⟩
    · rw [h.no_entry name] at hold
      cases hold
    · rw [Tree.view?, h.absent] at hv
      cases hv

theorem run (h : s.Forgotten id) {actions : List Action} (hactions : ∀ x ∈ actions, ¬ x.Adds id) :
    (s.run actions).Forgotten id := by
  induction actions generalizing s with
  | nil => exact h
  | cons x actions ih =>
    rw [List.forall_mem_cons] at hactions
    exact ih (h.act hactions.1) hactions.2

end Forgotten

/-! ## Answers -/

theorem keeps_iff : s.Keeps id name area ↔ ∃ r, s.cache.hit? id name area = some r := by
  simp only [Keeps, Cache.hit?_eq_some]
  exact exists_comm

/-- A request for an absent widget is refused exactly if nothing is kept that answers it. -/
theorem refused_iff (h : s.tree.get? id = none) :
    s.answer id name area = .error (.invalidRequest (.unknownWidget id)) ↔
      ¬ s.Keeps id name area := by
  rw [keeps_iff]
  unfold answer
  cases hhit : s.cache.hit? id name area with
  | none =>
    rw [Cache.answer_of_miss hhit, Cache.compute_absent h]
    simp
  | some r =>
    rw [Cache.resolve_of_hit hhit]
    simp

/-- **A widget that is not in the tree is refused unless the cache keeps a rectangle of the same
area for it**, which then was computed earlier in the run, when the widget was there.  Once a call
tells the cache of a change it is refused always, until its number is used again. -/
theorem absent_answer (t : Tree) (actions : List Action) (id : WidgetId)
    (habsent : ((start t).run actions).tree.get? id = none) :
    (∀ name area,
      (((start t).run actions).answer id name area = .error (.invalidRequest (.unknownWidget id)) ↔
        ¬ ((start t).run actions).Keeps id name area) ∧
      (((start t).run actions).Keeps id name area → ∃ before after a v r,
        actions = before ++ .resolve id name a :: after ∧ (a == area) = true ∧
        ((start t).run before).tree.view? id = some v ∧ (a.pixelRect v).result = .ok r ∧
        ((start t).run actions).answer id name area = .ok r)) ∧
    ∀ told more, told.Tells id → (∀ x ∈ more, ¬ x.Adds id) → ∀ name area,
      ((start t).run (actions ++ told :: more)).answer id name area =
        .error (.invalidRequest (.unknownWidget id)) := by
  refine ⟨fun name area => ⟨refused_iff habsent, ?_⟩, fun told more htold hmore name area => ?_⟩
  · rintro ⟨a, r, he, ha⟩
    obtain ⟨before, after, v, hactions, hv, hr⟩ := entry_run he
    refine ⟨before, after, a, v, r, hactions, ha, hv, hr, ?_⟩
    unfold answer
    rw [Cache.resolve_of_hit (Cache.hit?_eq_some.2 ⟨a, he, ha⟩)]
  · have hforgotten := (Forgotten.of_told habsent htold).run hmore
    have hrun : (start t).run (actions ++ told :: more) =
        (((start t).run actions).act told).run more := run_append _ _ _
    rw [hrun, refused_iff hforgotten.absent]
    rintro ⟨a, r, he, -⟩
    rw [hforgotten.no_entry name] at he
    cases he

/-- A display without widgets. -/
def display : Tree := .ofResources (.ofDisplay ⟨300, 200⟩)

/-- A widget is added, asked for its body and removed. -/
def removal : List Action :=
  [.addRoot 1 (.named "panel"), .resolve 1 "Body" .whole, .remove 1]

/-- The removed widget still has a body. -/
theorem removed_answered : ((start display).run removal).tree.get? 1 = none ∧
    ((start display).run removal).answer 1 "Body" .whole = .ok ⟨0, 0, 300, 200⟩ := ⟨rfl, rfl⟩

/-- It is refused under another name, and under every name once it is invalidated. -/
theorem removed_refused : ((start display).run removal).tree.get? 1 = none ∧
    ((start display).run removal).answer 1 "Title" .whole =
      .error (.invalidRequest (.unknownWidget 1)) ∧
    ((start display).run (removal ++ [.invalidate 1])).answer 1 "Body" .whole =
      .error (.invalidRequest (.unknownWidget 1)) := by
  have habsent : ((start display).run removal).tree.get? 1 = none := rfl
  obtain ⟨hanswer, htold⟩ := absent_answer display removal 1 habsent
  refine ⟨habsent, (hanswer "Title" .whole).1.2 ?_, htold (.invalidate 1) [] rfl (by simp) _ _⟩
  rintro ⟨a, r, he, -⟩
  cases he

end Session

end SkinLayout
