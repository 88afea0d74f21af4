/-!
# Binary formats, read as counting patterns

The non-negative bit patterns of a binary floating-point format count upwards
through the values the format can hold, so rounding needs no case split on
exponents: find the last pattern at or below the exact value, and compare with
the midpoint above it.  Values are natural numbers, in units of the least
positive value of the format; every finite value is a whole number of units.

`BinaryFormat.value` reads a pattern, `BinaryFormat.below` finds one, and
`BinaryFormat.nearest` rounds a ratio to the nearest, a tie to the even pattern.
-/
namespace SkinLayout

/-- Powers of numbers, also where those of any monoid are in scope. -/
@[default_instance high]
scoped instance powers {α : Type} [NatPow α] : Pow α Nat := instPowNat

/-- A binary format: `fraction` stored bits after the leading one, a least
positive value of `2 ^ -unit`, and `top` as the pattern of infinity. -/
structure BinaryFormat where
  fraction : Nat
  unit : Nat
  top : Nat

namespace BinaryFormat

def single : BinaryFormat := ⟨23, 149, 0x7f800000⟩

def double : BinaryFormat := ⟨52, 1074, 0x7ff0000000000000⟩

/-! ## Patterns and their values -/

/-- How often the spacing of the values has doubled by pattern `b`: it doubles at
every multiple of `2 ^ fraction` but the first. -/
def step (f : BinaryFormat) (b : Nat) : Nat := b / 2 ^ f.fraction - 1

/-- The value of a pattern, in units. -/
def value (f : BinaryFormat) (b : Nat) : Nat :=
  (b - f.step b * 2 ^ f.fraction) * 2 ^ f.step b

/-- The last pattern whose value is at most `q` units. -/
def below (f : BinaryFormat) (q : Nat) : Nat :=
  (q.log2 - f.fraction) * 2 ^ f.fraction + q / 2 ^ (q.log2 - f.fraction)

/-! ## Rounding -/

/-- Chooses between the neighbours `b` and `b + 1` of `num / den` units. -/
def roundFrom (f : BinaryFormat) (b num den : Nat) : Nat :=
  match compare (2 * num) ((f.value b + f.value (b + 1)) * den) with
  | .lt => b
  | .eq => b + b % 2
  | .gt => b + 1

/-- The pattern nearest to `num / den`, an exact tie going to the even one.  The
pattern of infinity stands for the first value past the finite ones. -/
def nearest (f : BinaryFormat) (num den : Nat) : Nat :=
  let n := num * 2 ^ f.unit
  min f.top (f.roundFrom (f.below (n / den)) n den)

/-- The pattern nearest to `m * 10 ^ e`.  Exponents whose result is plain from
their size alone are answered without computing the power. -/
def ofDecimal (f : BinaryFormat) (m : Nat) (e : Int) : Nat :=
  if m = 0 then 0
  else if 0 ≤ e then
    if f.unit < e.toNat then f.top else f.nearest (m * 10 ^ e.toNat) 1
  else if m.log2 + f.unit + 2 < 3 * (-e).toNat then 0
  else f.nearest m (10 ^ (-e).toNat)

end BinaryFormat

end SkinLayout
