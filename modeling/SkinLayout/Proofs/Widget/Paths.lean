import SkinLayout.Proofs.Text.Spacing
import SkinLayout.Proofs.Widget.Building
import SkinLayout.Proofs.Widget.Sizes
/-!
# Paths

A path is a list of names, and a slash between two paths puts their lists together, whatever slashes
they have themselves.  So lookups follow one another as their paths do (`find?_append`).  A lookup
never leaves the subtree of its widget, and where children have different names it finds every
widget in it by the names on the way down (`WellFormed.find?_of_namesDown`).
-/
namespace SkinLayout

/-! ## Names -/

theorem pathNames_append (p q : String) :
    pathNames (p ++ "/" ++ q) = pathNames p ++ pathNames q := by
  have htext : (p ++ "/" ++ q).toList = p.toList ++ '/' :: q.toList := by simp
  rw [pathNames, htext, splitAt_append, List.filter_append, List.map_append]
  rfl

/-- What can be a name in a path. -/
def IsPathName (name : String) : Prop := name ≠ "" ∧ '/' ∉ name.toList

theorem IsPathName.pathNames_eq {name : String} (h : IsPathName name) : pathNames name = [name] := by
  have hname : name.toList.isEmpty = false := by simpa using h.1
  rw [pathNames, splitAt_of_not_mem h.2, List.filter_cons_of_pos (by simp [hname]),
    List.filter_nil, List.map_singleton, String.ofList_toList]

theorem pathNames_intercalate : ∀ {names : List String}, (∀ n ∈ names, IsPathName n) →
    pathNames ("/".intercalate names) = names
  | [], _ => by simp [pathNames, splitAt]
  | [n], h => by
    rw [String.intercalate_singleton, (h n List.mem_cons_self).pathNames_eq]
  | n :: m :: names, h => by
    rw [List.forall_mem_cons] at h
    rw [String.intercalate_cons_cons, pathNames_append, h.1.pathNames_eq,
      pathNames_intercalate h.2, List.singleton_append]

/-! ## Lookups one after the other -/

namespace Tree

variable {t : Tree} {id c x : WidgetId} {w : Widget} {name path : String} {names : List String}

theorem descend_append (t : Tree) (ms : List String) : ∀ (ns : List String) (id : WidgetId),
    t.descend id (ns ++ ms) = (t.descend id ns).bind fun c => t.descend c ms
  | [], _ => rfl
  | n :: ns, id => by
    rw [List.cons_append, descend, descend]
    cases t.childNamed id n with
    | none => rfl
    | some c => exact descend_append t ms ns c

theorem find?_append (t : Tree) (id : WidgetId) (p q : String) :
    t.find? id (p ++ "/" ++ q) = (t.find? id p).bind fun c => t.find? c q := by
  rw [find?, pathNames_append, descend_append]
  rfl

/-- A view is looked up where its widget is. -/
theorem child?_append {v : View} (h : t.WellFormed) (hv : t.view? id = some v) (p q : String) :
    v.child? (p ++ "/" ++ q) = (v.child? p).bind fun c => c.child? q := by
  obtain ⟨w, hget, rfl⟩ := view?_eq_some_iff.1 hv
  unfold View.child?
  simp only [find?_append]
  cases hc : t.find? id p with
  | none => rfl
  | some c =>
    have hsome := isSome_of_above (h.above_of_find? hc) (by rw [hget, Option.isSome_some])
    obtain ⟨wc, hwc⟩ := Option.isSome_iff_exists.1 hsome
    have hview : t.view? c = some ⟨t, c, wc⟩ := view?_eq_some_iff.2 ⟨wc, hwc, rfl⟩
    rw [Option.bind_some, Option.bind_some, hview, Option.bind_some]

/-! ## Names on the way down -/

/-- The names of the widgets below one, down to another. -/
inductive NamesDown (t : Tree) : WidgetId → List String → WidgetId → Prop
  | here (id : WidgetId) : NamesDown t id [] id
  | down {id c x : WidgetId} {w : Widget} {names : List String} (hget : t.get? c = some w)
    (hparent : w.parent = some id) (hnames : NamesDown t c names x) :
    NamesDown t id (w.name :: names) x

/-- The children of a widget have different names. -/
def NamesApart (t : Tree) (id : WidgetId) : Prop :=
  ∀ c ∈ t.childrenOf id, ∀ d ∈ t.childrenOf id,
    (t.get? c).map Widget.name = (t.get? d).map Widget.name → c = d

theorem exists_namesDown (h : t.Above id x) : ∃ names, t.NamesDown id names x := by
  induction h using Relation.ReflTransGen.head_induction_on with
  | refl => exact ⟨[], .here x⟩
  | head hparent _ ih =>
    obtain ⟨w, hget, hw⟩ := exists_of_parentOf hparent
    obtain ⟨names, hnames⟩ := ih
    exact ⟨w.name :: names, .down hget hw hnames⟩

theorem childNamed_of_apart (hapart : t.NamesApart id) (hc : c ∈ t.childrenOf id)
    (hget : t.get? c = some w) : t.childNamed id w.name = some c := by
  have hname : (t.get? c).map Widget.name = some w.name := by rw [hget, Option.map_some]
  cases hfind : t.childNamed id w.name with
  | none =>
    have hno := List.find?_eq_none.1 hfind c hc
    rw [hname, beq_self_eq_true] at hno
    exact absurd rfl hno
  | some d =>
    -- the first child of that name is the only one
    have htest := List.find?_some hfind
    have hd : (t.get? d).map Widget.name = some w.name := beq_iff_eq.1 htest
    rw [hapart d (List.mem_of_find?_eq_some hfind) c hc (hd.trans hname.symm)]

namespace WellFormed

theorem descend_of_namesDown (h : t.WellFormed) (hdown : t.NamesDown id names x)
    (hapart : ∀ p, t.Above id p → t.NamesApart p) : t.descend id names = some x := by
  induction hdown with
  | here id => rfl
  | @down id c x w names hget hparent _ ih =>
    have hc : t.parentOf c = some id := (parentOf_of_get? hget).trans hparent
    have hchild : t.childNamed id w.name = some c :=
      childNamed_of_apart (hapart id (.refl t id)) (h.mem_children.2 hc) hget
    rw [descend, hchild]
    exact ih fun p hp => hapart p ((above_of_parentOf hc).trans hp)

/-- **Names lead to every widget below**, where they can be names in a path and tell children
apart. -/
theorem find?_of_namesDown (h : t.WellFormed) (hdown : t.NamesDown id names x)
    (hnames : ∀ n ∈ names, IsPathName n) (hapart : ∀ p, t.Above id p → t.NamesApart p) :
    t.find? id ("/".intercalate names) = some x := by
  rw [find?, pathNames_intercalate hnames]
  exact h.descend_of_namesDown hdown hapart

end WellFormed

/-- **Lookups compose as their paths do**, stay below their widget, and reach all of it by names. -/
theorem Built.paths_compose (h : t.Built) (id : WidgetId) :
    (∀ p q, t.find? id (p ++ "/" ++ q) = (t.find? id p).bind fun c => t.find? c q) ∧
    (∀ v, t.view? id = some v → ∀ p q,
      v.child? (p ++ "/" ++ q) = (v.child? p).bind fun c => c.child? q) ∧
    (∀ path x, t.find? id path = some x → x ∈ t.subtree id) ∧
    (∀ x ∈ t.subtree id, ∃ names, t.NamesDown id names x) ∧
    ((∀ p ∈ t.subtree id, t.NamesApart p) → ∀ x names, t.NamesDown id names x →
      (∀ n ∈ names, IsPathName n) → t.find? id ("/".intercalate names) = some x) := by
  have hwf := h.wellFormed
  refine ⟨t.find?_append id, fun v hv => child?_append hwf hv, fun path x hx => ?_, fun x hx => ?_,
    fun hapart x names hdown hnames => ?_⟩
  · exact hwf.mem_subtree_iff.2 (hwf.above_of_find? hx)
  · exact exists_namesDown (hwf.mem_subtree_iff.1 hx)
  · exact hwf.find?_of_namesDown hdown hnames fun p hp => hapart p (hwf.mem_subtree_iff.2 hp)

/-- A window with a body and a title, and two buttons in the body. -/
def window : Tree :=
  (((((Tree.ofResources (.ofDisplay ⟨300, 200⟩)).addRoot 1 (.named "window")).addChild 1 2
    (.named "body")).addChild 1 3 (.named "title")).addChild 2 4 (.named "ok")).addChild 2 5
    (.named "cancel")

theorem window_paths : window.Built ∧
    window.find? 1 ("/body//" ++ "/" ++ "/cancel") = (window.find? 2 "/cancel") ∧
    window.find? 1 ("title" ++ "/" ++ "cancel") = none ∧
    window.find? 1 ("/".intercalate ["body", "cancel"]) = some 5 := by
  have hbuilt : window.Built :=
    .addChild (.addChild (.addChild (.addChild (.addRoot (.ofResources _) rfl _) rfl rfl _) rfl rfl
      _) rfl rfl _) rfl rfl _
  obtain ⟨hcompose, -, -, -, hnamed⟩ := hbuilt.paths_compose 1
  have hapart : ∀ p ∈ window.subtree 1, window.NamesApart p := by
    unfold NamesApart
    decide
  have hbody : window.get? 2 = some { Widget.named "body" with parent := some 1 } := rfl
  have hcancel : window.get? 5 = some { Widget.named "cancel" with parent := some 2 } := rfl
  have hdown : window.NamesDown 1 ["body", "cancel"] 5 :=
    .down hbody rfl (.down hcancel rfl (.here 5))
  have hnames : ∀ n ∈ ["body", "cancel"], IsPathName n := by
    unfold IsPathName
    decide
  exact ⟨hbuilt, (hcompose "/body//" "/cancel").trans rfl, (hcompose "title" "cancel").trans rfl,
    hnamed hapart 5 _ hdown hnames⟩

end Tree

end SkinLayout
