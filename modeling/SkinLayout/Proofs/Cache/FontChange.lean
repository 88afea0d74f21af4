import SkinLayout.Proofs.Cache.Entries
import SkinLayout.Proofs.Dimension.Resizing
/-!
# The cache is told of a font

When a font changes size, a dimension that does not read it keeps its value, in the widget and in
any rectangle, and reading a font does not depend on its size.  So asking each area whether it reads
the font finds all that is out of date, and what is left holds as before (`fontResized_sound`).
-/
namespace SkinLayout
namespace Cache

/-- Every entry of a widget in the tree holds the rectangle where its area is. -/
def Holds (c : Cache) (t : Tree) : Prop :=
  ∀ id name area rect v, c.entries.get? (id, name) = some (area, rect) → t.view? id = some v →
    (area.pixelRect v).result = .ok rect

variable {c : Cache} {t : Tree}

theorem Holds.empty (t : Tree) : Holds .empty t := fun _ _ _ _ _ he => by cases he

theorem Holds.store (h : c.Holds t) {id : WidgetId} {area : Area} {rect : Rect}
    (hrect : (compute t id area).result = .ok rect) (name : String) :
    (c.store id name area rect).Holds t := by
  intro i n a r v he hv
  rw [get?_store] at he
  by_cases hk : (i, n) = (id, name)
  · rw [if_pos hk] at he
    cases hk
    cases he
    obtain ⟨w, hw, hr⟩ := result_compute_eq_ok.1 hrect
    rw [hv] at hw
    cases hw
    exact hr
  · rw [if_neg hk] at he
    exact h i n a r v he hv

/-- An entry that outlives the change of a font holds as before. -/
theorem Holds.setPointSize (h : c.Holds t) {font : String} {size : Float32} {id : WidgetId}
    {name : String} {area : Area} {rect : Rect}
    (he : c.entries.get? (id, name) = some (area, rect)) {v' : View}
    (hv' : (t.setPointSize font size).view? id = some v') (hreads : area.readsFont v' font = false) :
    (area.pixelRect v').result = .ok rect := by
  rw [View.view?_setPointSize, Option.map_eq_some_iff] at hv'
  obtain ⟨v, hv, rfl⟩ := hv'
  rw [Area.readsFont_resized] at hreads
  rw [Area.pixelRect_resized font size hreads]
  exact h _ _ _ _ _ he hv

/-- **Only what reads a font can tell that the font changes size**, and the cache that is told of it
drops exactly the entries that read it and those of absent widgets, says how many, and holds. -/
theorem fontResized_sound (t : Tree) (font : String) (size : Float32) :
    (∀ id v, t.view? id = some v → ∃ v', (t.setPointSize font size).view? id = some v' ∧
      (∀ n : Node, n.readsFont v' font = n.readsFont v font ∧
        (n.readsFont v font = false → n.SameValue v v')) ∧
      (∀ d : Dimension, d.readsFont v' font = d.readsFont v font ∧
        (d.readsFont v font = false → d.SameValue v v')) ∧
      ∀ a : Area, a.readsFont v' font = a.readsFont v font ∧
        (a.readsFont v font = false → a.SameRect v v')) ∧
    ∀ c : Cache, c.Holds t →
      let t' := t.setPointSize font size
      let told := (c.fontResized t' font).value
      (∀ id name area rect, told.2.entries.get? (id, name) = some (area, rect) →
        c.entries.get? (id, name) = some (area, rect) ∧
          ∃ v', t'.view? id = some v' ∧ (area.pixelRect v').result = .ok rect) ∧
      (∀ id name area rect, c.entries.get? (id, name) = some (area, rect) →
        (told.2.entries.get? (id, name) = none ↔
          t'.view? id = none ∨ ∃ v', t'.view? id = some v' ∧ area.readsFont v' font = true)) ∧
      told.1 = (c.lost told.2).length := by
  refine ⟨fun id v hv => ?_, fun c hc => ⟨?_, ?_, ?_⟩⟩
  · have hv' : (t.setPointSize font size).view? id = some (v.resized font size) := by
      rw [View.view?_setPointSize, hv, Option.map_some]
    refine ⟨_, hv', fun n => ⟨n.readsFont_resized font size v font, ?_⟩,
      fun d => ⟨d.node.readsFont_resized font size v font, fun h => ?_⟩,
      fun a => ⟨a.readsFont_resized font size v font, ?_⟩⟩
    · exact Node.sameValue_resized font size
    · exact (Node.sameValue_resized font size h).dimension
    · exact Area.sameRect_resized font size
  · intro id name area rect he
    rw [get?_fontResized, Option.filter_eq_some_iff] at he
    obtain ⟨hold, hsurvives⟩ := he
    obtain ⟨v', hv', hreads⟩ := survivesFont_iff.1 hsurvives
    exact ⟨hold, v', hv', hc.setPointSize hold hv' hreads⟩
  · intro id name area rect he
    rw [get?_fontResized, he, Option.filter_eq_none_iff]
    cases hv' : (t.setPointSize font size).view? id with
    | none => simp [survivesFont, hv']
    | some v' => simp [survivesFont, hv']
  · exact (Table.length_keys_filtered c.entries _).symm

/-- A window with a font of twelve pixels a line. -/
def window : Tree :=
  let font : Font := { Font.ofSize 10 with nativeSpacing := 12 }
  let t := Tree.ofResources ((Resources.ofDisplay ⟨300, 200⟩).addFont "sans" font)
  t.freshId.2.addRoot 1 { Widget.named "window" with font := some "sans" }

/-- An area as high as a line of text and a padding. -/
def titleBar : Area :=
  { Area.whole with bottom := ⟨.height, .font ⟨none, none, none, .lineSpacing, 4⟩⟩ }

/-- The cache of a window that was asked for its title bar and its body. -/
def windowed : Cache :=
  (Cache.empty.store 1 "TitleBar" titleBar ⟨0, 0, 300, 16⟩).store 1 "Body" .whole ⟨0, 0, 300, 200⟩

/-- The title bar goes, which was sixteen pixels high and becomes twenty-eight; the body stays. -/
theorem fontResized_windowed : windowed.Holds window ∧
    (compute (window.setPointSize "sans" 20) 1 titleBar).result = .ok ⟨0, 0, 300, 28⟩ ∧
    (∃ v v', window.view? 1 = some v ∧ (window.setPointSize "sans" 20).view? 1 = some v' ∧
      titleBar.readsFont v' "sans" = true ∧ Area.whole.SameRect v v') ∧
    let told := (windowed.fontResized (window.setPointSize "sans" 20) "sans").value
    told.1 = 1 ∧ told.2.entries.get? (1, "TitleBar") = none ∧
      told.2.entries.get? (1, "Body") = some (.whole, ⟨0, 0, 300, 200⟩) := by
  have htitle : (compute window 1 titleBar).result = .ok ⟨0, 0, 300, 16⟩ := by decide +kernel
  have hbody : (compute window 1 .whole).result = .ok ⟨0, 0, 300, 200⟩ := by decide +kernel
  have hholds : windowed.Holds window := ((Holds.empty window).store htitle _).store hbody _
  obtain ⟨hvalues, htold⟩ := fontResized_sound window "sans" 20
  obtain ⟨v', hv', -, -, harea⟩ := hvalues 1 _ rfl
  obtain ⟨-, hdropped, hcount⟩ := htold windowed hholds
  refine ⟨hholds, by decide +kernel, ⟨_, v', rfl, hv', ?_, (harea .whole).2 rfl⟩, hcount.trans rfl,
    (hdropped 1 "TitleBar" titleBar _ rfl).2 (.inr ⟨_, rfl, rfl⟩), rfl⟩
  exact (harea titleBar).1.trans rfl

end Cache

end SkinLayout
