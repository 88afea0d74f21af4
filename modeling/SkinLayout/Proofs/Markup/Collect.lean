import SkinLayout.Markup.Builder
/-!
# Collecting the calls of an element

Whatever is open around them, the calls of an element add that element and nothing else, and give no
event (`run_calls`).  So collecting what was written of an element gives the element.
-/
namespace SkinLayout

namespace Builder

/-- Takes a finished element: into the innermost open one, or among the finished ones. -/
def push (b : Builder) (e : Element) : Builder :=
  match b.stack with
  | [] => { b with roots := b.roots ++ [e] }
  | parent :: stack =>
    { b with stack := { parent with children := parent.children ++ [e] } :: stack }

theorem run_append (b : Builder) (cs ds : List Call) :
    b.run (cs ++ ds) = b.run cs >>= fun b' => b'.run ds := by
  induction cs generalizing b with
  | nil => rfl
  | cons c cs ih =>
    show (b.call c >>= fun b' => b'.run (cs ++ ds)) = (b.call c >>= fun b' => b'.run cs) >>= _
    rw [Logged.bind_assoc]
    congr 1
    funext b'
    exact ih b'

theorem run_append_of_pure {b b' : Builder} {cs : List Call} (h : b.run cs = pure b')
    (ds : List Call) : b.run (cs ++ ds) = b'.run ds := by
  rw [run_append, h]
  rfl

theorem run_sets (attributes : List (String × String)) (name : String)
    (before : List (String × String)) (stack roots : List Element) :
    Builder.run ⟨⟨name, before, []⟩ :: stack, roots⟩ (attributes.map fun a => .sets a.1 a.2) =
      pure ⟨⟨name, before ++ attributes, []⟩ :: stack, roots⟩ := by
  induction attributes generalizing before with
  | nil => rw [List.append_nil]; rfl
  | cons a attributes ih =>
    refine (ih (before ++ [a])).trans ?_
    rw [List.append_assoc, List.singleton_append]

theorem foldl_push (es : List Element) (name : String) (attributes : List (String × String))
    (children stack roots : List Element) :
    es.foldl push ⟨⟨name, attributes, children⟩ :: stack, roots⟩ =
      ⟨⟨name, attributes, children ++ es⟩ :: stack, roots⟩ := by
  induction es generalizing children with
  | nil => rw [List.append_nil]; rfl
  | cons e es ih =>
    refine (ih (children ++ [e])).trans ?_
    rw [List.append_assoc, List.singleton_append]

theorem foldl_push_roots (es roots : List Element) :
    es.foldl push ⟨[], roots⟩ = ⟨[], roots ++ es⟩ := by
  induction es generalizing roots with
  | nil => rw [List.append_nil]; rfl
  | cons e es ih =>
    refine (ih (roots ++ [e])).trans ?_
    rw [List.append_assoc, List.singleton_append]

theorem run_closes (e : Element) (stack roots : List Element) :
    Builder.run ⟨e :: stack, roots⟩ [.closes] = pure (push ⟨stack, roots⟩ e) := by
  cases stack <;> rfl

mutual

/-- **The calls of an element add exactly that element**, in silence. -/
theorem run_calls : ∀ (e : Element) (b : Builder), b.run e.calls = pure (b.push e)
  | ⟨name, attributes, children⟩, ⟨stack, roots⟩ => by
    have hopen : Builder.run ⟨stack, roots⟩ [.opens name] =
        pure ⟨⟨name, [], []⟩ :: stack, roots⟩ := rfl
    show Builder.run _ ([.opens name] ++ _ ++ _) = _
    rw [List.append_assoc, run_append_of_pure hopen,
      run_append_of_pure (run_sets attributes name [] stack roots),
      run_append_of_pure (run_callsOfAll children _), foldl_push]
    exact run_closes _ _ _

theorem run_callsOfAll : ∀ (es : List Element) (b : Builder),
    b.run (Element.callsOfAll es) = pure (es.foldl push b)
  | [], _ => rfl
  | e :: es, b => by
    rw [Element.callsOfAll, run_append_of_pure (run_calls e b)]
    exact run_callsOfAll es _

end

end Builder

/-- The first element that a sequence of calls finishes. -/
def Call.firstRoot? (cs : List Call) : Option Element := (Call.collect cs).value.head?

/-- **Collecting what was written of an element gives the element.** -/
theorem Element.firstRoot?_calls (e : Element) : Call.firstRoot? e.calls = some e := by
  unfold Call.firstRoot? Call.collect
  rw [Builder.run_calls]
  rfl

end SkinLayout
