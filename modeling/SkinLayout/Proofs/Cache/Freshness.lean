import SkinLayout.Config.Basic
import SkinLayout.Proofs.Cache.Entries
import SkinLayout.Proofs.Dimension.Resizing
import SkinLayout.Proofs.Widget.Building
/-!
# The cache is never stale

For areas that read their own widget only.  A run starts with an empty tree and an empty cache; the
cache is told of a new area or point size at once, and of nothing else: numbers, new widgets and
removals need no call.  An entry has to hold where its area is (`Build.Holds`), unless its widget is
gone; that its number is not used again is part of it, since the entries of a removed widget stay.
-/
namespace SkinLayout

/-! ## Entries that hold -/

/-- The entry's number was used, and if it still has a widget the rectangle is where the area is. -/
structure Build.Holds (b : Build) (id : WidgetId) (e : Area × Rect) : Prop where
  spent : b.Spent id
  ownOnly : e.1.OwnOnly
  current : ∀ {v}, b.tree.view? id = some v → (e.1.pixelRect v).result = .ok e.2

namespace Build.Holds

variable {b b' : Build} {id : WidgetId} {e : Area × Rect}

/-- A tree that is the same above the widget, if it has the widget, has its area where it was. -/
theorem of_same_above {t : Tree} (h : b.Holds id e) (hwf : b.tree.WellFormed)
    (hresources : t.resources = b.tree.resources) (halign : t.alignPixels = b.tree.alignPixels)
    (hsame : ∀ {w}, t.get? id = some w → ∀ a, b.tree.Above a id → t.get? a = b.tree.get? a)
    {v : View} (hv : t.view? id = some v) : (e.1.pixelRect v).result = .ok e.2 := by
  obtain ⟨w, hget, rfl⟩ := Tree.view?_eq_some_iff.1 hv
  have habove := hsame hget
  have hold : b.tree.get? id = some w := (habove id (.refl _ id)).symm.trans hget
  have halike := hwf.alike hresources halign hold habove
  have hfonts : t.resources.fonts = b.tree.resources.fonts := congrArg _ hresources
  rw [h.ownOnly.pixelRect_congr halike fun m hm => h.ownOnly.font?_congr halike hfonts hm]
  exact h.current (Tree.view?_eq_some_iff.2 ⟨w, hold, rfl⟩)

/-- **The links may change without a word to the cache.** -/
theorem edit (h : b.Holds id e) (hb : b.Sound) (hedit : b.Edit b') : b'.Holds id e where
  spent := hedit.spent hb h.spent
  ownOnly := h.ownOnly
  current hv := h.of_same_above hb.wellFormed (hedit.resources hb) (hedit.alignPixels hb)
    (fun hget _ ha => hedit.get?_above hb h.spent hget ha) hv

/-- A new area of a widget counts for the widgets below it only. -/
theorem setArea (h : b.Holds id e) (hb : b.Sound) {u : WidgetId} {area : UnifiedRect}
    (hid : id ∉ (b.tree.setArea u area).subtree u) :
    Build.Holds ⟨b.tree.setArea u area, b.unused⟩ id e where
  spent := h.spent
  ownOnly := h.ownOnly
  current hv := by
    refine h.of_same_above (t := b.tree.setArea u area) hb.wellFormed rfl rfl
      (fun _ a ha => ?_) hv
    rw [Tree.get?_setArea, if_neg]
    rintro rfl
    refine hid ((hb.wellFormed.setArea a area).mem_subtree_iff.2 ?_)
    exact ha.of_parentOf_eq (b.tree.parentOf_setArea a area)

theorem setPointSize (h : b.Holds id e) {font : String} {size : Float32}
    (hkept : Cache.survivesFont (b.tree.setPointSize font size) font id e.1 = true) :
    Build.Holds ⟨b.tree.setPointSize font size, b.unused⟩ id e where
  spent := h.spent
  ownOnly := h.ownOnly
  current {v} hv := by
    have hreads : e.1.readsFont v font = false := by
      unfold Cache.survivesFont at hkept
      rw [show (b.tree.setPointSize font size).view? id = some v from hv] at hkept
      simpa using hkept
    have hv : (b.tree.setPointSize font size).view? id = some v := hv
    rw [View.view?_setPointSize, Option.map_eq_some_iff] at hv
    obtain ⟨u, hu, rfl⟩ := hv
    rw [Area.readsFont_resized] at hreads
    rw [Area.pixelRect_resized font size hreads]
    exact h.current hu

end Build.Holds

/-! ## Runs -/

/-- A tree being built, and the cache beside it. -/
structure Layout extends Build where
  cache : Cache

namespace Layout

/-- One step: an edit of the links, a rectangle asked for, a change of geometry or of a font that
the cache is told of at once, or the cache emptied. -/
inductive Step : Layout → Layout → Prop
  | edit {s : Layout} {b : Build} (h : s.toBuild.Edit b) : Step s ⟨b, s.cache⟩
  | resolve (s : Layout) (id : WidgetId) (name : String) {area : Area} (h : area.OwnOnly) :
    Step s ⟨s.toBuild, (s.cache.resolve s.tree id name area).value.2⟩
  | setArea (s : Layout) (id : WidgetId) (area : UnifiedRect) :
    Step s ⟨⟨s.tree.setArea id area, s.unused⟩,
      (s.cache.invalidate (s.tree.setArea id area) id).value.2⟩
  | setPointSize (s : Layout) (font : String) (size : Float32) :
    Step s ⟨⟨s.tree.setPointSize font size, s.unused⟩,
      (s.cache.fontResized (s.tree.setPointSize font size) font).value.2⟩
  | clear (s : Layout) : Step s ⟨s.toBuild, .empty⟩

/-- The states of all runs, from trees without widgets. -/
inductive Reachable : Layout → Prop
  | ofResources (r : Resources) : Reachable ⟨⟨.ofResources r, []⟩, .empty⟩
  | ofConfig (c : Config) : Reachable ⟨⟨.ofConfig c, []⟩, .empty⟩
  | step {s s' : Layout} (h : Reachable s) (hs : s.Step s') : Reachable s'

/-- **The invariant**: numbers and links fit, and every entry holds. -/
structure Current (s : Layout) : Prop where
  sound : s.Sound
  holds : ∀ {id name e}, s.cache.entries.get? (id, name) = some e → s.Holds id e

variable {s s' : Layout}

theorem Current.start (nextId : WidgetId) (r : Resources) (align : Bool) :
    Current ⟨⟨⟨.empty, [], .empty, nextId, r, align⟩, []⟩, .empty⟩ :=
  ⟨.start nextId r align, fun he => (by cases he)⟩

theorem Current.resolve (h : s.Current) (id : WidgetId) (name : String) {area : Area}
    (harea : area.OwnOnly) :
    Current ⟨s.toBuild, (s.cache.resolve s.tree id name area).value.2⟩ := by
  refine ⟨h.sound, fun {i n e} he => ?_⟩
  rcases s.cache.resolve_cases s.tree id name area with hsame | ⟨v, r, hv, hr, hstore⟩
  · rw [hsame] at he
    exact h.holds he
  · rw [hstore, Cache.get?_store] at he
    by_cases hk : (i, n) = (id, name)
    · rw [if_pos hk] at he
      cases hk
      cases he
      obtain ⟨w, hget, rfl⟩ := Tree.view?_eq_some_iff.1 hv
      refine ⟨h.sound.spent hget, harea, fun {u} hu => ?_⟩
      rw [hv] at hu
      cases hu
      exact hr
    · rw [if_neg hk] at he
      exact h.holds he

theorem Step.current (hs : s.Step s') (h : s.Current) : s'.Current := by
  cases hs with
  | edit hedit => exact ⟨hedit.sound h.sound, fun he => (h.holds he).edit h.sound hedit⟩
  | resolve id name harea => exact h.resolve id name harea
  | setArea id area =>
    refine ⟨h.sound.setArea id area, fun {i n e} he => ?_⟩
    rw [Cache.get?_invalidate] at he
    by_cases hi : i ∈ (s.tree.setArea id area).subtree id
    · rw [if_pos hi] at he; cases he
    · rw [if_neg hi] at he
      exact (h.holds he).setArea h.sound hi
  | setPointSize font size =>
    refine ⟨h.sound.setPointSize font size, fun {i n e} he => ?_⟩
    rw [Cache.get?_fontResized, Option.filter_eq_some_iff] at he
    exact (h.holds he.1).setPointSize he.2
  | clear => exact ⟨h.sound, fun he => (by cases he)⟩

theorem Reachable.current (h : Reachable s) : s.Current := by
  induction h with
  | ofResources r => exact .start _ _ _
  | ofConfig c => exact .start _ _ _
  | step _ hs ih => exact hs.current ih

/-- **In every state of every run an entry whose widget is still there is where its area is.** -/
theorem entries_current (h : Reachable s) {id : WidgetId} {name : String} {area : Area}
    {rect : Rect} (hentry : s.cache.entries.get? (id, name) = some (area, rect)) {v : View}
    (hv : s.tree.view? id = some v) : (area.pixelRect v).result = .ok rect :=
  (h.current.holds hentry).current hv

/-- A root of half the display, asked for before and after it was narrowed. -/
def narrowed : Layout :=
  let wide := (Tree.ofResources (.ofDisplay ⟨300, 200⟩)).freshId.2.addRoot 1 (.named "root")
  let narrow := wide.setArea 1 (.ofEdges .zero .zero (.relative 0.5) .full)
  let asked := (Cache.empty.resolve wide 1 "Body" .whole).value.2
  ⟨⟨narrow, []⟩, ((asked.invalidate narrow 1).value.2.resolve narrow 1 "Body" .whole).value.2⟩

theorem entries_current_narrowed : narrowed.Reachable ∧
    narrowed.cache.entries.get? (1, "Body") = some (.whole, ⟨0, 0, 150, 200⟩) ∧
    ∃ v, narrowed.tree.view? 1 = some v ∧
      (Area.whole.pixelRect v).result = .ok ⟨0, 0, 150, 200⟩ := by
  have hown : Area.whole.OwnOnly := by decide
  have hnumber := Reachable.step (.ofResources (.ofDisplay ⟨300, 200⟩)) (.edit (.freshId _))
  have hadded := hnumber.step (.edit (.addRoot (.named "root") (List.mem_singleton_self 1)))
  have hasked := hadded.step (.resolve _ 1 "Body" hown)
  have htold := hasked.step (.setArea _ 1 (.ofEdges .zero .zero (.relative 0.5) .full))
  have hrun : narrowed.Reachable := htold.step (.resolve _ 1 "Body" hown)
  have hentry : narrowed.cache.entries.get? (1, "Body") = some (.whole, ⟨0, 0, 150, 200⟩) := rfl
  exact ⟨hrun, hentry, _, rfl, entries_current hrun hentry rfl⟩

end Layout

end SkinLayout
