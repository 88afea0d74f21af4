import SkinLayout.Proofs.Dimension.Reading
/-!
# The nesting limit

A limit on nesting can only be in the way.  What was read under one limit is read under any other
that its height allows (`Node.result_readAt_of_ok`), and whatever else happened under a limit, good
or bad, happens under a larger one too: the reader goes the same way and finds the same
(`Persists`).  So the limit is exact and changes nothing else (`nesting_limit_exact`).
-/
namespace SkinLayout

/-! ## What a larger limit keeps -/

section
variable {α β : Type} {limit : Nat}

/-- What came out under the limit comes out again, unless it was the limit that was in the way. -/
def Persists (limit : Nat) (r r' : Except LayoutError α) : Prop :=
  r ≠ .error (.nestingTooDeep limit) → r' = r

theorem Persists.refl (r : Except LayoutError α) : Persists limit r r := fun _ => rfl

theorem Persists.too_deep (r : Except LayoutError α) :
    Persists limit (.error (.nestingTooDeep limit)) r := fun h => absurd rfl h

/-- The reader goes on in the same way as long as each step persists. -/
theorem Persists.bind {r r' : Except LayoutError α} {f f' : α → Except LayoutError β}
    (h : Persists limit r r') (hf : ∀ a, Persists limit (f a) (f' a)) :
    Persists limit (r >>= f) (r' >>= f') := by
  intro hne
  cases r with
  | error e =>
    have he : r' = .error e := h fun heq => hne (by cases heq; rfl)
    rw [he]
    rfl
  | ok a =>
    have ha : r' = .ok a := h fun heq => by cases heq
    rw [ha]
    exact hf a hne

end

/-! ## Nodes -/

namespace Node

variable {limit limit' : Nat}

mutual

/-- A node that is read, or fails for any reason but its depth, does so under a larger limit. -/
theorem persists_readAt (hle : limit ≤ limit') : ∀ (depth : Nat) (e : Element),
    Persists limit (readAt limit depth e).result (readAt limit' depth e).result
  | depth, ⟨name, attributes, children⟩ => by
    by_cases hdepth : limit ≤ depth
    · rw [result_readAt_of_le hdepth]
      exact .too_deep _
    · have hlt : depth < limit := Nat.not_le.1 hdepth
      rw [result_readAt_of_lt hlt, result_readAt_of_lt (hlt.trans_le hle)]
      by_cases hname : name = "OperatorDim"
      · rw [if_pos hname, if_pos hname]
        exact (persists_readOperands hle (depth + 1) _ children).bind fun _ => .refl _
      · rw [if_neg hname, if_neg hname]
        exact .refl _

theorem persists_readOperands (hle : limit ≤ limit') :
    ∀ (depth : Nat) (o : Operation) (es : List Element),
      Persists limit (readOperands limit depth o es).result (readOperands limit' depth o es).result
  | _, _, [] => .refl _
  | depth, o, e :: es => by
    rw [result_readOperands_cons, result_readOperands_cons]
    apply (persists_readAt hle depth e).bind
    intro n
    -- whether there is a place for the operand is no matter of depth
    apply (Persists.refl (o.addOperand n)).bind
    intro p
    exact persists_readOperands hle depth p es

end

end Node

/-! ## Dimensions -/

namespace Dimension

variable {limit limit' depth : Nat} {e : Element}

theorem result_readAt_eq (limit depth : Nat) (e : Element) : (readAt limit depth e).result =
    e.expectName "Dim" >>= fun _ =>
      if limit ≤ depth then .error (.nestingTooDeep limit)
      else (e.role "type").result >>= fun role =>
        match e.children with
        | [] => .error (.missingChild e.name)
        | child :: _ =>
          (Node.readAt limit (depth + 1) child).result >>= fun node => .ok ⟨role, node⟩ := by
  unfold readAt
  rw [Outcome.result_bind, Outcome.result_ofExcept]
  congr 1
  funext _
  by_cases hdepth : limit ≤ depth
  · rw [if_pos hdepth, if_pos hdepth, Outcome.result_fail]
  · rw [if_neg hdepth, if_neg hdepth, Outcome.result_bind]
    congr 1
    funext role
    cases e.children with
    | nil => rfl
    | cons child rest => rw [Outcome.result_bind]; rfl

theorem persists_readAt (hle : limit ≤ limit') (depth : Nat) (e : Element) :
    Persists limit (readAt limit depth e).result (readAt limit' depth e).result := by
  rw [result_readAt_eq, result_readAt_eq]
  apply (Persists.refl (e.expectName "Dim")).bind
  intro _
  by_cases hdepth : limit ≤ depth
  · rw [if_pos hdepth]
    exact .too_deep _
  · rw [if_neg hdepth, if_neg (by omega)]
    apply (Persists.refl (e.role "type").result).bind
    intro role
    cases e.children with
    | nil => exact .refl _
    | cons child rest => exact (Node.persists_readAt hle (depth + 1) child).bind fun _ => .refl _

/-- What was read under one limit is read under another, if its height allows. -/
theorem result_readAt_of_ok {d : Dimension} (h : (readAt limit depth e).result = .ok d)
    (limit' depth' : Nat) : (readAt limit' depth' e).result =
      if depth' + d.height ≤ limit' then .ok d else .error (.nestingTooDeep limit') := by
  obtain ⟨hname, -, hrole, child, rest, hchildren, hnode⟩ := readAt_cases h
  have hexpect : e.expectName "Dim" = .ok () := if_pos hname
  have hread := Node.result_readAt_of_ok d.node hnode limit' (depth' + 1)
  rw [result_readAt_eq, hexpect, Outcome.ok_bind]
  by_cases hdepth : limit' ≤ depth'
  · rw [if_pos hdepth, if_neg (by unfold height; omega)]
  · rw [if_neg hdepth, hrole, Outcome.ok_bind]
    simp only [hchildren, hread]
    by_cases hfit : depth' + 1 + d.node.height ≤ limit'
    · rw [if_pos hfit, if_pos (by unfold height; omega), Outcome.ok_bind]
    · rw [if_neg hfit, if_neg (by unfold height; omega), Outcome.error_bind]

end Dimension

/-- **The nesting limit is exact and changes nothing else.**  What is read under some limit is read
under every limit that its height allows, and is too deep under every other; an error that is not
the limit's stays under every larger limit. -/
theorem nesting_limit_exact (e : Element) :
    (∀ (D : Nat) (n : Node), (Node.read D e).result = .ok n → ∀ d, (Node.read d e).result =
      if n.height ≤ d then .ok n else .error (.nestingTooDeep d)) ∧
    (∀ (D : Nat) (x : Dimension), (Dimension.read D e).result = .ok x →
      ∀ d, (Dimension.read d e).result =
        if 1 + x.node.height ≤ d then .ok x else .error (.nestingTooDeep d)) ∧
    (∀ d err, (Node.read d e).result = .error err → (∀ k, err ≠ .nestingTooDeep k) →
      ∀ d', d ≤ d' → (Node.read d' e).result = .error err) ∧
    ∀ d err, (Dimension.read d e).result = .error err → (∀ k, err ≠ .nestingTooDeep k) →
      ∀ d', d ≤ d' → (Dimension.read d' e).result = .error err := by
  refine ⟨fun D n h d => ?_, fun D x h d => ?_, fun d err h hother d' hle => ?_,
    fun d err h hother d' hle => ?_⟩
  · have hread := Node.result_readAt_of_ok n h d 0
    rwa [Nat.zero_add] at hread
  · have hread := Dimension.result_readAt_of_ok h d 0
    rwa [Nat.zero_add] at hread
  · have hpersists := Node.persists_readAt hle 0 e
    exact (hpersists fun htoo => hother d (Except.error.inj (h.symm.trans htoo))).trans h
  · have hpersists := Dimension.persists_readAt hle 0 e
    exact (hpersists fun htoo => hother d (Except.error.inj (h.symm.trans htoo))).trans h

/-- Two levels, read as the width and an operator that does nothing. -/
def nestedSum : Element :=
  ⟨"OperatorDim", [("op", "Add")],
    [⟨"WidgetDim", [("dimension", "Width")], []⟩, ⟨"OperatorDim", [], []⟩]⟩

/-- A fault behind what is nested deepest. -/
def faultBehindSum : Element := ⟨"OperatorDim", [], [nestedSum, ⟨"FontDim", [], []⟩]⟩

/-- The width of something. -/
def widthDim (e : Element) : Element := ⟨"Dim", [("type", "Width")], [e]⟩

theorem nesting_limit_exact_sum :
    let sum : Node :=
      .operation .add (some (.widget ⟨none, .width⟩)) (some (.operation .noop none none))
    (Node.read 9 nestedSum).result = .ok sum ∧ (Node.read 2 nestedSum).result = .ok sum ∧
    (Node.read 1 nestedSum).result = .error (.nestingTooDeep 1) ∧
    (Dimension.read 9 (widthDim nestedSum)).result = .ok ⟨.width, sum⟩ ∧
    (Dimension.read 3 (widthDim nestedSum)).result = .ok ⟨.width, sum⟩ ∧
    (Dimension.read 2 (widthDim nestedSum)).result = .error (.nestingTooDeep 2) ∧
    (Node.read 3 faultBehindSum).result = .error (.missingAttribute "FontDim" "type") ∧
    (Node.read 9 faultBehindSum).result = .error (.missingAttribute "FontDim" "type") ∧
    (Dimension.read 4 (widthDim faultBehindSum)).result =
      .error (.missingAttribute "FontDim" "type") ∧
    (Dimension.read 9 (widthDim faultBehindSum)).result =
      .error (.missingAttribute "FontDim" "type") := by
  intro sum
  have hsum : (Node.read 9 nestedSum).result = .ok sum := rfl
  have hdim : (Dimension.read 9 (widthDim nestedSum)).result = .ok ⟨.width, sum⟩ := rfl
  have hfault : (Node.read 3 faultBehindSum).result =
      .error (.missingAttribute "FontDim" "type") := rfl
  have hdimFault : (Dimension.read 4 (widthDim faultBehindSum)).result =
      .error (.missingAttribute "FontDim" "type") := rfl
  have hother : ∀ k, LayoutError.missingAttribute "FontDim" "type" ≠ .nestingTooDeep k := by
    rintro k ⟨⟩
  obtain ⟨hnode, -⟩ := nesting_limit_exact nestedSum
  obtain ⟨-, hdimension, -⟩ := nesting_limit_exact (widthDim nestedSum)
  obtain ⟨-, -, hnodeError, -⟩ := nesting_limit_exact faultBehindSum
  obtain ⟨-, -, -, hdimError⟩ := nesting_limit_exact (widthDim faultBehindSum)
  exact ⟨hsum, hnode _ _ hsum 2, hnode _ _ hsum 1, hdim, hdimension _ _ hdim 3,
    hdimension _ _ hdim 2, hfault, hnodeError _ _ hfault hother 9 (by decide), hdimFault,
    hdimError _ _ hdimFault hother 9 (by decide)⟩

end SkinLayout
