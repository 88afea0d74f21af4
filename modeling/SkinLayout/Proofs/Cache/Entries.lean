import SkinLayout.Cache
/-!
# What the calls of the cache do to an entry

A rectangle is computed and kept on a miss only, and each way of dropping entries asks of an entry
whether it goes.
-/
namespace SkinLayout

/-- What a test takes out of a table is the difference of the sizes. -/
theorem Table.length_keys_filtered {κ α : Type} [DecidableEq κ] (t : Table κ α)
    (p : κ → α → Bool) :
    (t.keys.filter fun k => !(t.filter p).contains k).length = t.size - (t.filter p).size := by
  have hkeys : (t.keys.filter fun k => !(t.filter p).contains k) =
      (t.entries.filter fun e => !p e.1 e.2).map Prod.fst := by
    rw [keys, List.filter_map]
    refine congrArg _ (List.filter_congr fun e he => ?_)
    have hget : t.get? e.1 = some e.2 := get?_eq_some_iff.2 he
    by_cases hp : p e.1 e.2 = true
    · simp [contains, get?_filter, hget, hp]
    · simp [contains, get?_filter, hget, hp]
  have hsplit : t.entries.length = (t.entries.filter fun e => p e.1 e.2).length +
      (t.entries.filter fun e => !p e.1 e.2).length := by
    have hcount := List.length_eq_countP_add_countP (fun e => p e.1 e.2) (l := t.entries)
    simp only [List.countP_eq_length_filter] at hcount
    simpa using hcount
  have hkept : (t.filter p).size = (t.entries.filter fun e => p e.1 e.2).length := rfl
  rw [hkeys, List.length_map, hkept, size]
  omega

namespace Cache

variable {c : Cache} {t : Tree} {id : WidgetId} {name : String} {area : Area} {r : Rect}

theorem result_compute_eq_ok : (compute t id area).result = .ok r ↔
    ∃ v, t.view? id = some v ∧ (area.pixelRect v).result = .ok r := by
  unfold compute
  cases t.view? id with
  | none => simp
  | some v => simp

/-! ## Resolving -/

theorem resolve_of_hit (h : c.hit? id name area = some r) :
    (c.resolve t id name area).value = (.ok r, c) := by
  unfold resolve
  rw [h]
  rfl

theorem resolve_of_ok (hmiss : c.hit? id name area = none)
    (h : (compute t id area).result = .ok r) :
    (c.resolve t id name area).value = (.ok r, c.store id name area r) := by
  unfold resolve keep
  simp only [hmiss, h]

theorem resolve_of_error (hmiss : c.hit? id name area = none) {e : LayoutError}
    (h : (compute t id area).result = .error e) :
    (c.resolve t id name area).value = (.error e, c) := by
  unfold resolve keep
  simp only [hmiss, h]

theorem answer_of_miss (hmiss : c.hit? id name area = none) :
    (c.resolve t id name area).value.1 = (compute t id area).result := by
  cases h : (compute t id area).result with
  | ok r => rw [resolve_of_ok hmiss h]
  | error e => rw [resolve_of_error hmiss h]

/-- Resolving leaves the cache alone, or keeps what it computed. -/
theorem resolve_cases (c : Cache) (t : Tree) (id : WidgetId) (name : String) (area : Area) :
    (c.resolve t id name area).value.2 = c ∨ ∃ v r, t.view? id = some v ∧
      (area.pixelRect v).result = .ok r ∧
      (c.resolve t id name area).value.2 = c.store id name area r := by
  cases hhit : c.hit? id name area with
  | some r => exact .inl (by rw [resolve_of_hit hhit])
  | none =>
    cases h : (compute t id area).result with
    | error e => exact .inl (by rw [resolve_of_error hhit h])
    | ok r =>
      obtain ⟨v, hv, hr⟩ := result_compute_eq_ok.1 h
      exact .inr ⟨v, r, hv, hr, by rw [resolve_of_ok hhit h]⟩

/-! ## Single entries -/

theorem get?_store (c : Cache) (id : WidgetId) (name : String) (area : Area) (r : Rect)
    (k : WidgetId × String) : (c.store id name area r).entries.get? k =
      if k = (id, name) then some (area, r) else c.entries.get? k :=
  Table.get?_insert _ _ _ _

theorem get?_invalidate (c : Cache) (t : Tree) (id : WidgetId) (k : WidgetId × String) :
    (c.invalidate t id).value.2.entries.get? k =
      if k.1 ∈ t.subtree id then none else c.entries.get? k := by
  show (c.entries.filter _).get? k = _
  rw [Table.get?_filter]
  by_cases hk : k.1 ∈ t.subtree id
  · rw [if_pos hk]
    cases c.entries.get? k <;> simp [hk]
  · rw [if_neg hk]
    cases c.entries.get? k <;> simp [hk]

theorem get?_fontResized (c : Cache) (t : Tree) (font : String) (k : WidgetId × String) :
    (c.fontResized t font).value.2.entries.get? k =
      (c.entries.get? k).filter fun e => survivesFont t font k.1 e.1 :=
  Table.get?_filter _ _ _

/-- An entry outlives a change of a font if its widget is there and its area does not read it. -/
theorem survivesFont_iff {font : String} : survivesFont t font id area = true ↔
    ∃ v, t.view? id = some v ∧ area.readsFont v font = false := by
  unfold survivesFont
  cases t.view? id with
  | none => simp
  | some v => simp

/-- The keys that a later cache has no entry for. -/
def lost (c c' : Cache) : List (WidgetId × String) :=
  c.entries.keys.filter fun k => !c'.contains k.1 k.2

end Cache

end SkinLayout
