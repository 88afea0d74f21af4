import SkinLayout.Number.Pattern
/-!
# The shortest decimal that reads back

Of the decimals that round to a given value, the one with the fewest digits is
the one on the coarsest grid `10 ^ k` that has a point among them.  If any point
of a grid rounds to the value then one of the value's two neighbours on that
grid does, so only those are tried: grid after grid, from one too coarse down to
`10 ^ -unit`, on which every value lies exactly.  Of two hits on a grid the
nearer wins, and the upper one if both are equally near.
-/
namespace SkinLayout

namespace BinaryFormat

/-! ## The decimals that round to a value

A ratio rounds to pattern `b` if it lies between the midpoints on either side of
it; the midpoints themselves belong to `b` when it is even. -/

/-- The sum of a value and the one below it: twice the lower midpoint. -/
def lowerSum (f : BinaryFormat) (b : Nat) : Nat := f.value (b - 1) + f.value b

/-- Twice the upper midpoint. -/
def upperSum (f : BinaryFormat) (b : Nat) : Nat := f.value b + f.value (b + 1)

/-- Whether `num / den` units round to the pattern `b`. -/
def roundsTo (f : BinaryFormat) (b num den : Nat) : Bool :=
  if b % 2 = 0 then f.lowerSum b * den ≤ 2 * num && 2 * num ≤ f.upperSum b * den
  else f.lowerSum b * den < 2 * num && 2 * num < f.upperSum b * den

/-! ## The search -/

/-- The powers of ten that make a grid of `10 ^ k` whole: a value times the first,
counted in the second, is counted in grid steps. -/
def gridScale (f : BinaryFormat) (k : Int) : Nat × Nat :=
  (10 ^ (-k).toNat, 2 ^ f.unit * 10 ^ k.toNat)

/-- The point of the grid `10 ^ k` that stands for the value of `b`, if one does. -/
def gridPoint (f : BinaryFormat) (b : Nat) (k : Int) : Option Nat :=
  let (scale, grid) := f.gridScale k
  let v := f.value b * scale
  let c := v / grid
  match f.roundsTo b (c * grid) scale, f.roundsTo b ((c + 1) * grid) scale with
  | true, true => some (if 2 * v < (2 * c + 1) * grid then c else c + 1)
  | true, false => some c
  | false, true => some (c + 1)
  | false, false => none

/-- The first hit among the grids from `10 ^ (n - unit)` down; the last grid needs
no test. -/
def searchGrids (f : BinaryFormat) (b : Nat) : Nat → Nat × Int
  | 0 => (f.value b * 5 ^ f.unit, -f.unit)
  | n + 1 =>
    match f.gridPoint b (n + 1 - f.unit) with
    | some c => (c, n + 1 - f.unit)
    | none => searchGrids f b n

/-- Digits `c` and exponent `k` of the shortest decimal `c * 10 ^ k` for a finite
pattern.  The first grid tried is coarser than the value. -/
def shortest (f : BinaryFormat) (b : Nat) : Nat × Int :=
  f.searchGrids b (f.unit + ((f.value b).log2 - f.unit) / 3 + 1)

end BinaryFormat

end SkinLayout
