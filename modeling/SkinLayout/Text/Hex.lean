/-!
# Digits of base sixteen
-/
namespace SkinLayout

def hexDigit? (c : Char) : Option Nat :=
  if c.isDigit then some (c.toNat - '0'.toNat)
  else if 'a' ≤ c ∧ c ≤ 'f' then some (c.toNat - 'a'.toNat + 10)
  else if 'A' ≤ c ∧ c ≤ 'F' then some (c.toNat - 'A'.toNat + 10)
  else none

/-- The number that a text of digits of that base says; digits of base sixteen that
the base lacks count as no digits. -/
def ofDigits? (base : Nat) (s : List Char) : Option Nat :=
  s.foldl (fun n c => do
    let n ← n
    let d ← hexDigit? c
    if d < base then some (n * base + d) else none) (some 0)

/-- The character of a number; a number in the range of surrogates, or past the
last character, has none. -/
def char? (n : Nat) : Option Char := if n.isValidChar then some (Char.ofNat n) else none

end SkinLayout
