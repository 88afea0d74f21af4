import SkinLayout.Markup.Element
import SkinLayout.Outcome
/-!
# Collecting markup as elements

The builder keeps the elements that are still open and those that are finished.
An open element takes attributes until it has a child, as the text form does.
-/
namespace SkinLayout

/-- The open elements, innermost first, and the finished ones in order. -/
structure Builder where
  stack : List Element
  roots : List Element

namespace Builder

def empty : Builder := ⟨[], []⟩

def call (b : Builder) : Call → Logged Builder
  | .opens name => pure { b with stack := ⟨name, [], []⟩ :: b.stack }
  | .sets key value =>
    match b.stack with
    | ⟨name, attributes, []⟩ :: stack =>
      pure { b with stack := ⟨name, attributes ++ [(key, value)], []⟩ :: stack }
    | _ => do
      Logged.report (.strayAttribute key)
      return b
  | .closes =>
    match b.stack with
    | [] => do
      Logged.report .strayClose
      return b
    | [e] => pure { b with stack := [], roots := b.roots ++ [e] }
    | e :: parent :: stack =>
      pure { b with stack := { parent with children := parent.children ++ [e] } :: stack }

/-- Makes the calls in order. -/
def run (b : Builder) : List Call → Logged Builder
  | [] => pure b
  | c :: cs => do
    let b ← b.call c
    b.run cs

end Builder

/-- The elements that a sequence of calls finishes. -/
def Call.collect (cs : List Call) : Logged (List Element) := do
  let b ← Builder.empty.run cs
  return b.roots

end SkinLayout
