import SkinLayout.Proofs.Dimension.RoundTrip
/-!
# What a reader has taken

A reader that ends well tells what it was given: a leaf, or an operator with at most two operands
that were read in turn one level deeper (`Node.Taken`).  The limit decides whether a node is read
and not what is read: under another limit the same element gives the same node, as long as the node
is not too high (`Node.result_readAt_of_ok`).
-/
namespace SkinLayout

namespace Outcome

variable {α β ε : Type}

theorem bind_eq_ok {x : Except ε α} {f : α → Except ε β} {b : β} :
    (x >>= f) = .ok b ↔ ∃ a, x = .ok a ∧ f a = .ok b := by
  cases x with
  | error e => simp
  | ok a => simp

theorem result_bind_eq_ok {x : Outcome α} {f : α → Outcome β} {b : β} :
    (x >>= f).result = .ok b ↔ ∃ a, x.result = .ok a ∧ (f a).result = .ok b := by
  rw [result_bind, bind_eq_ok]

end Outcome

open Outcome (bind_eq_ok result_bind_eq_ok)

variable {limit depth : Nat} {e : Element}

/-! ## Nodes -/

namespace Node

/-- The operator that an element names. -/
def operatorOf (e : Element) : Operator := (e.operatorD "op" .noop).value

/-- What an element at a depth can be read as. -/
inductive Taken (limit depth : Nat) (e : Element) : Node → Prop
  | leaf {n : Node} (hname : e.name ≠ "OperatorDim") (hread : (readLeaf e).result = .ok n) :
    Taken limit depth e n
  | bare (hname : e.name = "OperatorDim") (hchildren : e.children = []) :
    Taken limit depth e (.operation (operatorOf e) none none)
  | unary {a : Element} {l : Node} (hname : e.name = "OperatorDim") (hchildren : e.children = [a])
    (hleft : (readAt limit (depth + 1) a).result = .ok l) :
    Taken limit depth e (.operation (operatorOf e) (some l) none)
  | binary {a b : Element} {l r : Node} (hname : e.name = "OperatorDim")
    (hchildren : e.children = [a, b]) (hleft : (readAt limit (depth + 1) a).result = .ok l)
    (hright : (readAt limit (depth + 1) b).result = .ok r) :
    Taken limit depth e (.operation (operatorOf e) (some l) (some r))

theorem result_readAt_of_lt (hdepth : depth < limit) :
    (readAt limit depth e).result = if e.name = "OperatorDim" then
      (readOperands limit (depth + 1) (.ofOperator (operatorOf e)) e.children).result >>=
        fun o => .ok o.toNode
    else (readLeaf e).result := by
  rw [readAt_eq, if_neg (Nat.not_le.2 hdepth)]
  by_cases hname : e.name = "OperatorDim"
  · rw [if_pos hname, if_pos hname]
    simp only [Outcome.result_bind, Outcome.result_ofLogged, Outcome.ok_bind, Outcome.result_pure]
    rfl
  · rw [if_neg hname, if_neg hname]

theorem result_readAt_of_le (hdepth : limit ≤ depth) (e : Element) :
    (readAt limit depth e).result = .error (.nestingTooDeep limit) := by
  rw [readAt_eq, if_pos hdepth, Outcome.result_fail]

/-- One more operand is read, if there is a place for it. -/
theorem readOperands_cons_eq_ok {o o' : Operation} {es : List Element} :
    (readOperands limit depth o (e :: es)).result = .ok o' ↔
      ∃ n p, (readAt limit depth e).result = .ok n ∧ o.addOperand n = .ok p ∧
        (readOperands limit depth p es).result = .ok o' := by
  rw [result_readOperands_cons]
  simp only [bind_eq_ok]
  constructor
  · rintro ⟨n, hn, p, hp, ho⟩
    exact ⟨n, p, hn, hp, ho⟩
  · rintro ⟨n, p, hn, hp, ho⟩
    exact ⟨n, hn, p, hp, ho⟩

/-- **A node that was read was within the limit, and is a leaf or made of what was read below.** -/
theorem taken_of_readAt {n : Node} (h : (readAt limit depth e).result = .ok n) :
    depth < limit ∧ Taken limit depth e n := by
  have hdepth : depth < limit := by
    by_contra hdepth
    rw [result_readAt_of_le (Nat.not_lt.1 hdepth)] at h
    cases h
  refine ⟨hdepth, ?_⟩
  rw [result_readAt_of_lt hdepth] at h
  by_cases hname : e.name = "OperatorDim"
  · rw [if_pos hname] at h
    obtain ⟨o, ho, hn⟩ := bind_eq_ok.1 h
    cases hn
    match hchildren : e.children with
    | [] =>
      rw [hchildren] at ho
      cases ho
      exact .bare hname hchildren
    | [a] =>
      rw [hchildren, readOperands_cons_eq_ok] at ho
      obtain ⟨l, p, hl, hp, ho⟩ := ho
      cases hp
      cases ho
      exact .unary hname hchildren hl
    | [a, b] =>
      rw [hchildren, readOperands_cons_eq_ok] at ho
      obtain ⟨l, p, hl, hp, ho⟩ := ho
      cases hp
      obtain ⟨r, p, hr, hp, ho⟩ := readOperands_cons_eq_ok.1 ho
      cases hp
      cases ho
      exact .binary hname hchildren hl hr
    | a :: b :: c :: es =>
      rw [hchildren, readOperands_cons_eq_ok] at ho
      obtain ⟨l, p, hl, hp, ho⟩ := ho
      cases hp
      obtain ⟨r, p, hr, hp, ho⟩ := readOperands_cons_eq_ok.1 ho
      cases hp
      obtain ⟨n, p, hn, hp, ho⟩ := readOperands_cons_eq_ok.1 ho
      -- no slot is left for a third
      cases hp
  · rw [if_neg hname] at h
    exact .leaf hname h

/-- What a leaf was read as, by its kind. -/
theorem readLeaf_cases {n : Node} (h : (readLeaf e).result = .ok n) :
    (∃ x, n = .literal x) ∨ (∃ u role, n = .unified u role) ∨
    (∃ m, FontMetric.read e = .ok m ∧ n = .font m) ∨
    (∃ m, (ImageMetric.readNamed e = .ok m ∨ ImageMetric.readProperty e = .ok m) ∧
      n = .image m) ∨
    (∃ m, (WidgetMetric.read e).result = .ok m ∧ n = .widget m) ∨
    ∃ m, (PropertyMetric.read e).result = .ok m ∧ n = .property m := by
  unfold readLeaf at h
  split at h
  · obtain ⟨x, -, hn⟩ := result_bind_eq_ok.1 h
    cases hn
    exact .inl ⟨x, rfl⟩
  · obtain ⟨scale, -, h⟩ := result_bind_eq_ok.1 h
    obtain ⟨offset, -, h⟩ := result_bind_eq_ok.1 h
    obtain ⟨role, -, hn⟩ := result_bind_eq_ok.1 h
    cases hn
    exact .inr (.inl ⟨⟨scale, offset⟩, role, rfl⟩)
  · obtain ⟨m, hm, hn⟩ := result_bind_eq_ok.1 h
    cases hn
    exact .inr (.inr (.inl ⟨m, hm, rfl⟩))
  · obtain ⟨m, hm, hn⟩ := result_bind_eq_ok.1 h
    cases hn
    exact .inr (.inr (.inr (.inl ⟨m, .inl hm, rfl⟩)))
  · obtain ⟨m, hm, hn⟩ := result_bind_eq_ok.1 h
    cases hn
    exact .inr (.inr (.inr (.inl ⟨m, .inr hm, rfl⟩)))
  · obtain ⟨m, hm, hn⟩ := result_bind_eq_ok.1 h
    cases hn
    exact .inr (.inr (.inr (.inr (.inl ⟨m, hm, rfl⟩))))
  · obtain ⟨m, hm, hn⟩ := result_bind_eq_ok.1 h
    cases hn
    exact .inr (.inr (.inr (.inr (.inr ⟨m, hm, rfl⟩))))
  · cases h

theorem isLeaf_of_readLeaf {n : Node} (h : (readLeaf e).result = .ok n) : n.isLeaf = true := by
  rcases readLeaf_cases h with ⟨x, rfl⟩ | ⟨u, role, rfl⟩ | ⟨m, _, rfl⟩ | ⟨m, _, rfl⟩ |
    ⟨m, _, rfl⟩ | ⟨m, _, rfl⟩ <;> rfl

/-! ## The limit -/

/-- Reading an operand that is known to be read, under another limit. -/
theorem result_readOperands_cons_of {n : Node} {o p : Operation}
    (hread : (readAt limit depth e).result =
      if depth + n.height ≤ limit then .ok n else .error (.nestingTooDeep limit))
    (hp : o.addOperand n = .ok p) (es : List Element) :
    (readOperands limit depth o (e :: es)).result =
      if depth + n.height ≤ limit then (readOperands limit depth p es).result
      else .error (.nestingTooDeep limit) := by
  rw [result_readOperands_cons, hread]
  by_cases hn : depth + n.height ≤ limit
  · rw [if_pos hn, if_pos hn, Outcome.ok_bind, hp, Outcome.ok_bind]
  · rw [if_neg hn, if_neg hn, Outcome.error_bind]

theorem result_readAt_of_isLeaf {n : Node} (hn : n.isLeaf = true)
    (h : (readAt limit depth e).result = .ok n) (limit' depth' : Nat) :
    (readAt limit' depth' e).result =
      if depth' + n.height ≤ limit' then .ok n else .error (.nestingTooDeep limit') := by
  obtain ⟨-, htaken⟩ := taken_of_readAt h
  cases htaken with
  | leaf hname hread =>
    rw [height_of_isLeaf hn]
    by_cases hdepth : limit' ≤ depth'
    · rw [result_readAt_of_le hdepth, if_neg (by omega)]
    · rw [result_readAt_of_lt (Nat.not_le.1 hdepth), if_neg hname, if_pos (by omega), hread]
  | bare _ _ => cases hn
  | unary _ _ _ => cases hn
  | binary _ _ _ _ => cases hn

/-- **The limit is exact and changes nothing else**: what was read under one limit is read under
another, at any depth, if its height allows. -/
theorem result_readAt_of_ok (n : Node) : ∀ {limit depth e},
    (readAt limit depth e).result = .ok n → ∀ limit depth, (readAt limit depth e).result =
      if depth + n.height ≤ limit then .ok n else .error (.nestingTooDeep limit) := by
  induction n using Node.induction with
  | literal x => exact result_readAt_of_isLeaf rfl
  | unified u role => exact result_readAt_of_isLeaf rfl
  | font m => exact result_readAt_of_isLeaf rfl
  | image m => exact result_readAt_of_isLeaf rfl
  | widget m => exact result_readAt_of_isLeaf rfl
  | property m => exact result_readAt_of_isLeaf rfl
  | operation op left right ihleft ihright =>
    intro limit depth e h limit' depth'
    obtain ⟨-, htaken⟩ := taken_of_readAt h
    -- operands are one level deeper in either reading, so their heights decide about them alike
    by_cases hdepth : limit' ≤ depth'
    · rw [result_readAt_of_le hdepth, if_neg (by simp only [height]; omega)]
    · rw [result_readAt_of_lt (Nat.not_le.1 hdepth)]
      cases htaken with
      | leaf _ hread => cases isLeaf_of_readLeaf hread
      | bare hname hchildren =>
        rw [if_pos hname, hchildren, if_pos (by simp only [height, operandHeight]; omega)]
        rfl
      | @unary a l hname hchildren hleft =>
        have hl := ihleft l rfl hleft limit' (depth' + 1)
        rw [if_pos hname, hchildren, result_readOperands_cons_of hl rfl]
        by_cases hfit : depth' + 1 + l.height ≤ limit'
        · rw [if_pos hfit, if_pos (by simp only [height, operandHeight]; omega)]
          rfl
        · rw [if_neg hfit, if_neg (by simp only [height, operandHeight]; omega)]
          rfl
      | @binary a b l r hname hchildren hleft hright =>
        have hl := ihleft l rfl hleft limit' (depth' + 1)
        have hr := ihright r rfl hright limit' (depth' + 1)
        rw [if_pos hname, hchildren, result_readOperands_cons_of hl rfl,
          result_readOperands_cons_of hr rfl]
        by_cases hfitl : depth' + 1 + l.height ≤ limit'
        · rw [if_pos hfitl]
          by_cases hfitr : depth' + 1 + r.height ≤ limit'
          · rw [if_pos hfitr, if_pos (by simp only [height, operandHeight]; omega)]
            rfl
          · rw [if_neg hfitr, if_neg (by simp only [height, operandHeight]; omega)]
            rfl
        · rw [if_neg hfitl, if_neg (by simp only [height, operandHeight]; omega)]
          rfl

theorem height_le_of_readAt {n : Node} (h : (readAt limit depth e).result = .ok n) :
    depth + n.height ≤ limit := by
  by_contra hlimit
  have hread := result_readAt_of_ok n h limit depth
  rw [h, if_neg hlimit] at hread
  cases hread

end Node

/-! ## Dimensions and areas -/

namespace Dimension

theorem readAt_cases {d : Dimension} (h : (readAt limit depth e).result = .ok d) :
    e.name = "Dim" ∧ depth < limit ∧ (e.role "type").result = .ok d.role ∧
      ∃ child rest, e.children = child :: rest ∧
        (Node.readAt limit (depth + 1) child).result = .ok d.node := by
  unfold readAt at h
  obtain ⟨_, hexpect, h⟩ := result_bind_eq_ok.1 h
  have hname : e.name = "Dim" := by
    by_contra hname
    have hfail : e.expectName "Dim" = .error (.unexpectedElement "Dim" e.name) := if_neg hname
    rw [Outcome.result_ofExcept, hfail] at hexpect
    cases hexpect
  by_cases hdepth : limit ≤ depth
  · rw [if_pos hdepth] at h
    cases h
  · rw [if_neg hdepth] at h
    obtain ⟨role, hrole, h⟩ := result_bind_eq_ok.1 h
    refine ⟨hname, Nat.not_le.1 hdepth, ?_⟩
    match hchildren : e.children with
    | [] =>
      simp only [hchildren] at h
      cases h
    | child :: rest =>
      simp only [hchildren] at h
      obtain ⟨node, hnode, hd⟩ := result_bind_eq_ok.1 h
      cases hd
      exact ⟨hrole, child, rest, rfl, hnode⟩

theorem height_le_of_readAt {d : Dimension} (h : (readAt limit depth e).result = .ok d) :
    depth + d.height ≤ limit := by
  obtain ⟨-, -, -, child, -, -, hnode⟩ := readAt_cases h
  have hle := Node.height_le_of_readAt hnode
  unfold height
  omega

end Dimension

namespace Area

variable {a a' : Area}

/-- A child is the name of a property, or a dimension that has a place. -/
theorem readChild_cases (h : (a.readChild limit e).result = .ok a') :
    (e.name = "AreaProperty" ∧ ∃ name, e.required "name" = .ok name ∧
      a' = { a with property := some name }) ∨
    (e.name ≠ "AreaProperty" ∧ ∃ d, (Dimension.readAt limit 1 e).result = .ok d ∧
      a.place d = some a') := by
  unfold readChild at h
  by_cases hname : e.name = "AreaProperty"
  · rw [if_pos hname] at h
    obtain ⟨name, hrequired, ha⟩ := result_bind_eq_ok.1 h
    cases ha
    exact .inl ⟨hname, name, hrequired, rfl⟩
  · rw [if_neg hname] at h
    obtain ⟨d, hd, h⟩ := result_bind_eq_ok.1 h
    refine .inr ⟨hname, d, hd, ?_⟩
    cases hplace : a.place d with
    | none => simp only [hplace] at h; cases h
    | some a'' => simp only [hplace] at h; cases h; rfl

/-- What every child keeps of an area, all of them keep. -/
theorem readChildren_induction {P : Area → Prop}
    (hstep : ∀ e a a', P a → (readChild limit a e).result = .ok a' → P a') :
    ∀ {es : List Element} {a a' : Area}, P a → (readChildren limit a es).result = .ok a' → P a'
  | [], _, _, ha, h => by
    cases h
    exact ha
  | e :: es, a, a', ha, h => by
    rw [readChildren] at h
    obtain ⟨b, hb, h⟩ := result_bind_eq_ok.1 h
    exact readChildren_induction hstep (hstep e a b ha hb) h

/-- What holds of the whole widget, and is kept by every child, holds of an area that was read. -/
theorem read_induction {P : Area → Prop} (hwhole : P whole)
    (hstep : ∀ e a a', P a → (readChild limit a e).result = .ok a' → P a')
    (h : (read limit e).result = .ok a) : P a := by
  unfold read at h
  obtain ⟨_, -, h⟩ := result_bind_eq_ok.1 h
  exact readChildren_induction hstep hwhole h

end Area

end SkinLayout
