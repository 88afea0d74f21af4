import SkinLayout.Number.Pattern
/-!
# Single-precision numbers

Layout computes in `Float32`, each operation rounded by itself.  This module adds
what a layout needs beyond the four operations, all of it through the bit
pattern: magnitude and sign, a number from a pattern, the test that guards
divisions, and rounding to whole pixels.
-/
namespace SkinLayout

namespace Single

/-- The pattern of the absolute value. -/
def magnitude (x : Float32) : Nat := x.toBits.toNat % 2 ^ 31

/-- Whether the sign bit is set; it tells the zeros apart. -/
def isNegative (x : Float32) : Bool := 2 ^ 31 ≤ x.toBits.toNat

/-- The number with the given sign and pattern. -/
def ofPattern (negative : Bool) (b : Nat) : Float32 :=
  Float32.ofBits (UInt32.ofNat (if negative then 2 ^ 31 + b else b))

/-- The not-a-number that invalid operations give. -/
def nan : Float32 := ofPattern false (BinaryFormat.single.top + 2 ^ 22)

def infinity (negative : Bool) : Float32 := ofPattern negative BinaryFormat.single.top

/-- The distance from one to the next larger number. -/
def epsilon : Float32 := ofPattern false 0x34000000

/-- Divisors this close to zero count as zero. -/
def isNearZero (x : Float32) : Bool := x.abs < epsilon

/-- The nearest whole number, a half going away from zero.  The sign survives, so
small negative numbers round to negative zero. -/
def roundHalfAway (x : Float32) : Float32 :=
  let f := BinaryFormat.single
  if f.top ≤ magnitude x then x
  else
    let whole := (2 * f.value (magnitude x) + 2 ^ f.unit) / 2 ^ (f.unit + 1)
    ofPattern (isNegative x) (f.below (whole * 2 ^ f.unit))

/-- A number of double precision, given by sign and pattern, in single precision. -/
def ofDouble (negative : Bool) (b : Nat) : Float32 :=
  if BinaryFormat.double.top < b then nan
  else if b = BinaryFormat.double.top then infinity negative
  else ofPattern negative
    (BinaryFormat.single.nearest (BinaryFormat.double.value b) (2 ^ BinaryFormat.double.unit))

end Single

end SkinLayout
