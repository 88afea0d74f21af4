/-!
# Markup elements

An element has a name, attributes in the order they were written, and children.
Whatever produces markup does so as a sequence of calls — open a tag, set an
attribute of it, close it — so the same sequence can be written as text or
collected as elements.
-/
namespace SkinLayout

structure Element where
  name : String
  attributes : List (String × String)
  children : List Element
  deriving Inhabited

/-- One step of producing markup. -/
inductive Call where
  | opens (name : String)
  | sets (key value : String)
  | closes
  deriving DecidableEq, Repr

/-! ## Elements as calls -/

mutual

/-- The calls that produce an element. -/
def Element.calls : Element → List Call
  | ⟨name, attributes, children⟩ =>
    .opens name :: (attributes.map fun a => .sets a.1 a.2) ++
      (Element.callsOfAll children ++ [.closes])

def Element.callsOfAll : List Element → List Call
  | [] => []
  | e :: es => e.calls ++ Element.callsOfAll es

end

/-! ## Equality -/

mutual

def Element.same : Element → Element → Bool
  | ⟨name, attributes, children⟩, ⟨name', attributes', children'⟩ =>
    name == name' && attributes == attributes' && Element.sameAll children children'

def Element.sameAll : List Element → List Element → Bool
  | [], [] => true
  | e :: es, e' :: es' => e.same e' && Element.sameAll es es'
  | _, _ => false

end

mutual

theorem Element.same_iff : ∀ {e e' : Element}, e.same e' = true ↔ e = e'
  | ⟨name, attributes, children⟩, ⟨name', attributes', children'⟩ => by
    simp only [Element.same, Bool.and_eq_true, beq_iff_eq, Element.sameAll_iff, Element.mk.injEq,
      and_assoc]

theorem Element.sameAll_iff : ∀ {es es' : List Element}, Element.sameAll es es' = true ↔ es = es'
  | [], [] => by simp [Element.sameAll]
  | [], _ :: _ => by simp [Element.sameAll]
  | _ :: _, [] => by simp [Element.sameAll]
  | e :: es, e' :: es' => by
    simp only [Element.sameAll, Bool.and_eq_true, Element.same_iff, Element.sameAll_iff,
      List.cons.injEq]

end

instance : DecidableEq Element := fun _ _ => decidable_of_iff _ Element.same_iff

end SkinLayout
