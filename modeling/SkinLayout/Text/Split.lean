/-!
# Cutting a text at a character
-/
namespace SkinLayout

/-- The pieces between the cuts; there is always one piece more than there are
cuts. -/
def splitAt (sep : Char) : List Char → List (List Char)
  | [] => [[]]
  | c :: s =>
    if c = sep then [] :: splitAt sep s
    else
      match splitAt sep s with
      | [] => [[c]]
      | piece :: pieces => (c :: piece) :: pieces

theorem splitAt_ne_nil (sep : Char) : ∀ s : List Char, splitAt sep s ≠ []
  | [] => by simp [splitAt]
  | c :: s => by
    unfold splitAt
    split
    · simp
    · split <;> simp

end SkinLayout
