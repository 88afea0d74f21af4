import SkinLayout.Proofs.Cache.Entries
import SkinLayout.Proofs.Dimension.Ending
/-!
# Requests under different names

A request looks at the entry under its own key, and on a miss at the tree; it writes under that key
only, and nothing if it fails.  So requests with different keys can be made in any order: each is
answered as if it came first, and leaves the entry that it leaves alone (`Cache.requests_apart`).
If one of them never ends, which takes a ring of parents, there is no order in which all are
answered.
-/
namespace SkinLayout

/-- What the cache is asked for. -/
structure Request where
  id : WidgetId
  name : String
  area : Area

/-- Where the answer is kept. -/
def Request.key (q : Request) : WidgetId × String := (q.id, q.name)

namespace Cache

def ask (c : Cache) (t : Tree) (q : Request) : Logged (Except LayoutError Rect × Cache) :=
  c.resolve t q.id q.name q.area

/-- Makes requests in order, on one tree. -/
def askAll (c : Cache) (t : Tree) : List Request → Logged (List (Except LayoutError Rect) × Cache)
  | [] => pure ([], c)
  | q :: qs => do
    let first ← c.ask t q
    let rest ← first.2.askAll t qs
    return (first.1 :: rest.1, rest.2)

def ask? (c : Cache) (t : Tree) (q : Request) : Option (Logged (Except LayoutError Rect × Cache)) :=
  c.resolve? t q.id q.name q.area

/-- What a request is answered, if it ends. -/
def answer? (c : Cache) (t : Tree) (q : Request) : Option (Except LayoutError Rect) :=
  (c.ask? t q).map fun y => y.value.1

/-- Makes requests in order, on one tree; what comes after one that never ends is not made. -/
def askAll? (c : Cache) (t : Tree) :
    List Request → Option (Logged (List (Except LayoutError Rect) × Cache))
  | [] => some (pure ([], c))
  | q :: qs =>
    (c.ask? t q).bind fun first =>
      (first.value.2.askAll? t qs).map fun rest => do
        let first ← first
        let rest ← rest
        return (first.1 :: rest.1, rest.2)

variable {c c' : Cache} {t : Tree} {q : Request} {qs qs' : List Request} {r : Rect}
  {k : WidgetId × String}

/-! ## Requests that end -/

/-- The widgets whose sizes a rectangle is computed from; one that is kept is not computed. -/
def awaited (c : Cache) (t : Tree) (q : Request) : List WidgetId :=
  match c.hit? q.id q.name q.area with
  | some _ => []
  | none => (t.view? q.id).elim [] (q.area.awaited [q.id])

theorem compute?_eq_some_iff {id : WidgetId} {area : Area} {x : Outcome Rect} :
    compute? t id area = some x ↔
      t.AllSized ((t.view? id).elim [] (area.awaited [id])) ∧ x = compute t id area := by
  unfold compute? compute
  cases hv : t.view? id with
  | none => exact (t.ends_of_nothing _).eq_some_iff
  | some v =>
    obtain ⟨w, -, rfl⟩ := Tree.view?_eq_some_iff.1 hv
    exact (area.ends_attempt _).eq_some_iff

/-- A request that ends is answered as `ask` answers it. -/
theorem ask?_eq_some_iff {y : Logged (Except LayoutError Rect × Cache)} :
    c.ask? t q = some y ↔ t.AllSized (c.awaited t q) ∧ y = c.ask t q := by
  unfold ask? resolve? awaited ask resolve
  cases c.hit? q.id q.name q.area with
  | some r =>
    rw [Option.some.injEq]
    exact ⟨fun h => ⟨Tree.allSized_nil, h.symm⟩, fun h => h.2.symm⟩
  | none =>
    simp only [Option.map_eq_some_iff, compute?_eq_some_iff]
    constructor
    · rintro ⟨x, ⟨hsized, rfl⟩, rfl⟩
      exact ⟨hsized, rfl⟩
    · rintro ⟨hsized, rfl⟩
      exact ⟨_, ⟨hsized, rfl⟩, rfl⟩

theorem answer?_eq_some_iff {a : Except LayoutError Rect} :
    c.answer? t q = some a ↔ t.AllSized (c.awaited t q) ∧ (c.ask t q).value.1 = a := by
  unfold answer?
  simp only [Option.map_eq_some_iff, ask?_eq_some_iff]
  constructor
  · rintro ⟨y, ⟨hsized, rfl⟩, ha⟩
    exact ⟨hsized, ha⟩
  · rintro ⟨hsized, ha⟩
    exact ⟨_, ⟨hsized, rfl⟩, ha⟩

theorem exists_ask?_iff : (∃ y, c.ask? t q = some y) ↔ t.AllSized (c.awaited t q) := by
  simp only [ask?_eq_some_iff, exists_and_left, exists_eq, and_true]

/-! ## One request -/

theorem hit?_congr (h : c.entries.get? q.key = c'.entries.get? q.key) :
    c.hit? q.id q.name q.area = c'.hit? q.id q.name q.area := congrArg (Option.bind · _) h

theorem awaited_congr (h : c.entries.get? q.key = c'.entries.get? q.key) :
    c.awaited t q = c'.awaited t q := by
  unfold awaited
  rw [hit?_congr h]

/-- A request depends on no entry but the one under its key, neither in its answer nor in what it
leaves there. -/
theorem ask_congr (h : c.entries.get? q.key = c'.entries.get? q.key) :
    (c.ask t q).value.1 = (c'.ask t q).value.1 ∧
    (c.ask t q).value.2.entries.get? q.key = (c'.ask t q).value.2.entries.get? q.key := by
  have hhit := hit?_congr h
  unfold ask
  cases hc : c.hit? q.id q.name q.area with
  | some r =>
    rw [resolve_of_hit hc, resolve_of_hit (hhit ▸ hc)]
    exact ⟨rfl, h⟩
  | none =>
    have hc' : c'.hit? q.id q.name q.area = none := hhit ▸ hc
    cases hr : (compute t q.id q.area).result with
    | error e =>
      rw [resolve_of_error hc hr, resolve_of_error hc' hr]
      exact ⟨rfl, h⟩
    | ok r =>
      rw [resolve_of_ok hc hr, resolve_of_ok hc' hr, get?_store, get?_store]
      exact ⟨rfl, by rw [Request.key, if_pos rfl, if_pos rfl]⟩

theorem answer?_congr (h : c.entries.get? q.key = c'.entries.get? q.key) :
    c.answer? t q = c'.answer? t q := by
  apply Option.ext
  intro a
  rw [answer?_eq_some_iff, answer?_eq_some_iff, awaited_congr h, (ask_congr h).1]

theorem get?_ask_of_ne (c : Cache) (t : Tree) (h : k ≠ q.key) :
    (c.ask t q).value.2.entries.get? k = c.entries.get? k := by
  unfold ask
  rcases c.resolve_cases t q.id q.name q.area with hsame | ⟨_, r, -, -, hstore⟩
  · rw [hsame]
  · rw [hstore, get?_store]
    exact if_neg h

theorem ask_of_error {e : LayoutError} (h : (c.ask t q).value.1 = .error e) :
    (c.ask t q).value.2 = c := by
  unfold ask at h ⊢
  cases hhit : c.hit? q.id q.name q.area with
  | some r => rw [resolve_of_hit hhit]
  | none =>
    rw [answer_of_miss hhit] at h
    rw [resolve_of_error hhit h]

/-- The rectangle of an answer is kept. -/
theorem get?_ask_of_ok (h : (c.ask t q).value.1 = .ok r) :
    ∃ a, (c.ask t q).value.2.entries.get? q.key = some (a, r) := by
  unfold ask at h ⊢
  cases hhit : c.hit? q.id q.name q.area with
  | some r' =>
    rw [resolve_of_hit hhit] at h ⊢
    cases h
    obtain ⟨⟨a, r'⟩, he, hr⟩ := Option.bind_eq_some_iff.1 hhit
    refine ⟨a, he.trans ?_⟩
    split at hr
    · cases hr
      rfl
    · cases hr
  | none =>
    rw [answer_of_miss hhit] at h
    rw [resolve_of_ok hhit h, get?_store]
    exact ⟨q.area, if_pos rfl⟩

/-! ## Many requests -/

theorem get?_askAll_of_notMem (c : Cache) (t : Tree) (h : k ∉ qs.map Request.key) :
    (c.askAll t qs).value.2.entries.get? k = c.entries.get? k := by
  induction qs generalizing c with
  | nil => rfl
  | cons q qs ih =>
    rw [List.map_cons, List.mem_cons, not_or] at h
    exact (ih (c.ask t q).value.2 h.2).trans (c.get?_ask_of_ne t h.1)

/-- **Each of the requests is answered as if it came first**, and leaves what it then leaves. -/
theorem askAll_of_nodup (c : Cache) (t : Tree) (h : (qs.map Request.key).Nodup) :
    (c.askAll t qs).value.1 = qs.map (fun q => (c.ask t q).value.1) ∧
    ∀ q ∈ qs, (c.askAll t qs).value.2.entries.get? q.key =
      (c.ask t q).value.2.entries.get? q.key := by
  induction qs generalizing c with
  | nil => exact ⟨rfl, fun q hq => (List.not_mem_nil hq).elim⟩
  | cons q qs ih =>
    rw [List.map_cons, List.nodup_cons] at h
    obtain ⟨hanswers, hentries⟩ := ih (c.ask t q).value.2 h.2
    -- the first request does not touch the entries that the others look at
    have hother : ∀ p ∈ qs, ((c.ask t q).value.2.ask t p).value.1 = (c.ask t p).value.1 ∧
        ((c.ask t q).value.2.ask t p).value.2.entries.get? p.key =
          (c.ask t p).value.2.entries.get? p.key := by
      intro p hp
      refine ask_congr (c.get?_ask_of_ne t fun hkey => h.1 ?_)
      exact hkey ▸ List.mem_map_of_mem hp
    constructor
    · have hrest : ((c.ask t q).value.2.askAll t qs).value.1 =
          qs.map fun p => (c.ask t p).value.1 :=
        hanswers.trans (List.map_congr_left fun p hp => (hother p hp).1)
      rw [List.map_cons, ← hrest]
      rfl
    · intro p hp
      rcases List.mem_cons.1 hp with rfl | hp
      · exact get?_askAll_of_notMem _ t h.1
      · exact (hentries p hp).trans (hother p hp).2

/-- All requests are made if each of them ends when it comes first, and then as `askAll` makes
them. -/
theorem askAll?_eq_some_iff {x : Logged (List (Except LayoutError Rect) × Cache)}
    (h : (qs.map Request.key).Nodup) :
    c.askAll? t qs = some x ↔ (∀ q ∈ qs, t.AllSized (c.awaited t q)) ∧ x = c.askAll t qs := by
  induction qs generalizing c x with
  | nil =>
    rw [askAll?, Option.some.injEq]
    exact ⟨fun he => ⟨fun q hq => absurd hq List.not_mem_nil, he.symm⟩, fun he => he.2.symm⟩
  | cons q qs ih =>
    rw [List.map_cons, List.nodup_cons] at h
    -- the first request leaves the others what they ask for
    have hother : ∀ p ∈ qs, (c.ask t q).value.2.awaited t p = c.awaited t p := by
      intro p hp
      refine awaited_congr (c.get?_ask_of_ne t fun hkey => h.1 ?_)
      exact hkey ▸ List.mem_map_of_mem hp
    have hrest : (∀ p ∈ qs, t.AllSized ((c.ask t q).value.2.awaited t p)) ↔
        ∀ p ∈ qs, t.AllSized (c.awaited t p) :=
      forall₂_congr fun p hp => by rw [hother p hp]
    rw [askAll?, Option.bind_eq_some_iff, List.forall_mem_cons]
    simp only [ask?_eq_some_iff, Option.map_eq_some_iff]
    constructor
    · rintro ⟨_, ⟨hfirst, rfl⟩, rest, hmade, rfl⟩
      obtain ⟨hsized, rfl⟩ := (ih h.2).1 hmade
      exact ⟨⟨hfirst, hrest.1 hsized⟩, rfl⟩
    · rintro ⟨⟨hfirst, hsized⟩, rfl⟩
      exact ⟨_, ⟨hfirst, rfl⟩, _, (ih h.2).2 ⟨hrest.2 hsized, rfl⟩, rfl⟩

/-- **Requests with different keys do not interfere.**  All of them are answered if each is that
comes first, in every order, and then each gets the answer that it gets if it comes first, and the
same entries are there in the end.  Whether a request ends, and its answer if it does, is the same
whatever others came before.  It ends if the sizes are there that its rectangle is computed from; if
it fails it leaves the cache as it was, and if not it keeps its rectangle and touches no other
key. -/
theorem requests_apart (c : Cache) (t : Tree) :
    (∀ qs qs', (qs.map Request.key).Nodup → qs'.Perm qs →
      ((∃ x, c.askAll? t qs' = some x) ↔ ∀ q ∈ qs, ∃ y, c.ask? t q = some y) ∧
      ∀ x', c.askAll? t qs' = some x' →
        x'.value.1.map some = qs'.map (c.answer? t) ∧
        ∃ x, c.askAll? t qs = some x ∧
          ∀ k, x'.value.2.entries.get? k = x.value.2.entries.get? k) ∧
    (∀ qs q, ((q :: qs).map Request.key).Nodup → ∀ x, c.askAll? t qs = some x →
      x.value.2.answer? t q = c.answer? t q) ∧
    (∀ q, (∃ y, c.ask? t q = some y) ↔ ∀ id ∈ c.awaited t q, ∃ s, t.Sized id s) ∧
    (t.WellFormed → ∀ q, ∃ y, c.ask? t q = some y) ∧
    ∀ q y, c.ask? t q = some y →
      (∀ e, y.value.1 = .error e → y.value.2 = c) ∧
      ∀ r, y.value.1 = .ok r →
        (∃ a, y.value.2.entries.get? q.key = some (a, r)) ∧
        ∀ k, k ≠ q.key → y.value.2.entries.get? k = c.entries.get? k := by
  refine ⟨fun qs qs' hkeys hperm => ?_, fun qs q hkeys x hx => ?_, fun q => exists_ask?_iff,
    fun hwf q => exists_ask?_iff.2 (hwf.allSized _), fun q y hy => ?_⟩
  · have hkeys' : (qs'.map Request.key).Nodup := (hperm.map Request.key).nodup_iff.2 hkeys
    have hsized : (∀ q ∈ qs', t.AllSized (c.awaited t q)) ↔
        ∀ q ∈ qs, t.AllSized (c.awaited t q) := by simp only [hperm.mem_iff]
    constructor
    · simp only [askAll?_eq_some_iff hkeys', exists_and_left, exists_eq, and_true, hsized,
        exists_ask?_iff]
    · intro x' hx'
      obtain ⟨hall, rfl⟩ := (askAll?_eq_some_iff hkeys').1 hx'
      refine ⟨?_, _, (askAll?_eq_some_iff hkeys).2 ⟨hsized.1 hall, rfl⟩, fun k => ?_⟩
      · rw [(c.askAll_of_nodup t hkeys').1, List.map_map]
        exact List.map_congr_left fun q hq => (answer?_eq_some_iff.2 ⟨hall q hq, rfl⟩).symm
      · by_cases hk : k ∈ qs.map Request.key
        · obtain ⟨q, hq, rfl⟩ := List.mem_map.1 hk
          rw [(c.askAll_of_nodup t hkeys').2 q (hperm.mem_iff.2 hq),
            (c.askAll_of_nodup t hkeys).2 q hq]
        · have hk' : k ∉ qs'.map Request.key := fun h =>
            hk ((hperm.map Request.key).mem_iff.1 h)
          rw [c.get?_askAll_of_notMem t hk', c.get?_askAll_of_notMem t hk]
  · rw [List.map_cons, List.nodup_cons] at hkeys
    obtain ⟨-, rfl⟩ := (askAll?_eq_some_iff hkeys.2).1 hx
    exact answer?_congr (c.get?_askAll_of_notMem t hkeys.1)
  · obtain ⟨-, rfl⟩ := ask?_eq_some_iff.1 hy
    exact ⟨fun e h => ask_of_error h, fun r h =>
      ⟨get?_ask_of_ok h, fun k hk => c.get?_ask_of_ne t hk⟩⟩

/-- A display with one widget. -/
def oneWindow : Tree := (Tree.ofResources (.ofDisplay ⟨300, 200⟩)).addRoot 1 (.named "window")

/-- The cache once the window was asked for its body and its title, both the whole of it. -/
def opened : Cache := (empty.askAll oneWindow [⟨1, "Body", .whole⟩, ⟨1, "Title", .whole⟩]).value.2

/-- The body again, a title that has no answer, a strip that is new, and a widget that is not
there. -/
def mixed : List Request :=
  [⟨1, "Body", .whole⟩,
    ⟨1, "Title", { Area.whole with left := ⟨.leftEdge, .unified .full .invalid⟩ }⟩,
    ⟨1, "Strip", { Area.whole with bottom := ⟨.height, .literal 20⟩ }⟩, ⟨2, "Body", .whole⟩]

/-- Backwards the answers are the same, and the title that was kept is still there. -/
theorem requests_apart_mixed : ∃ x, opened.askAll? oneWindow mixed.reverse = some x ∧
    x.value.1 =
      [.error (.invalidRequest (.unknownWidget 2)), .ok ⟨0, 0, 300, 20⟩,
        .error (.invalidRequest .unresolvableRole), .ok ⟨0, 0, 300, 200⟩] ∧
    x.value.2.entries.get? (1, "Title") = some (.whole, ⟨0, 0, 300, 200⟩) := by
  obtain ⟨-, hmade⟩ := (requests_apart opened oneWindow).1 mixed mixed.reverse (by decide)
    (List.reverse_perm mixed)
  obtain ⟨-, forwards, hforwards, hentries⟩ := hmade _ rfl
  cases hforwards
  exact ⟨_, rfl, rfl, (hentries (1, "Title")).trans rfl⟩

-- beside a ring: with a request in it there is no order in which both are answered
example : ([[⟨3, "Body", .whole⟩, ⟨2, "Body", .whole⟩], [⟨2, "Body", .whole⟩, ⟨3, "Body", .whole⟩]] :
    List (List Request)).map (fun qs =>
      (empty.askAll? (Tree.ring.addRoot 3 (.named "c")) qs).isSome) = [false, false] := rfl

end Cache

end SkinLayout
