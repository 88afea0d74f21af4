import SkinLayout.Number.Single
import SkinLayout.Number.Shortest
/-!
# Numbers as decimal text

`Numeral` is what a decimal text says before it is rounded to any format, so one
reader serves single and double precision.  A numeral is an optional sign and
then digits with an optional point and an optional exponent, or `inf`,
`infinity` or `nan` in any case; blanks, underscores and other bases are refused.

`Single.toChars` writes a number with the fewest digits that read back, always
positionally: no exponent, and no point in a whole number.
-/
namespace SkinLayout

/-! ## Reading -/

/-- A decimal text, exactly: a finite one means `digits * 10 ^ exponent`. -/
inductive Numeral where
  | finite (negative : Bool) (digits : Nat) (exponent : Int)
  | infinite (negative : Bool)
  | notANumber
  deriving DecidableEq, Repr

namespace Numeral

/-- A run of digits, at least one of them. -/
def natural? (s : List Char) : Option Nat :=
  if s ≠ [] ∧ s.all Char.isDigit then some (Nat.ofDigitChars 10 s 0) else none

/-- What may follow the digits: nothing, or `e` with a whole number. -/
def exponent? : List Char → Option Int
  | [] => some 0
  | c :: s =>
    if c = 'e' ∨ c = 'E' then
      match s with
      | '-' :: t => (natural? t).map fun n => -(n : Int)
      | '+' :: t => (natural? t).map fun n => (n : Int)
      | t => (natural? t).map fun n => (n : Int)
    else none

/-- Splits off the digits behind a point, if there is one. -/
def splitFraction : List Char → List Char × List Char
  | '.' :: s => s.span Char.isDigit
  | s => ([], s)

def decimal? (negative : Bool) (s : List Char) : Option Numeral :=
  let (whole, s) := s.span Char.isDigit
  let (part, s) := splitFraction s
  if whole = [] ∧ part = [] then none
  else (exponent? s).map fun e =>
    .finite negative (Nat.ofDigitChars 10 (whole ++ part) 0) (e - part.length)

def unsigned? (negative : Bool) (s : List Char) : Option Numeral :=
  let word := s.map Char.toLower
  if word = ['i', 'n', 'f'] ∨ word = ['i', 'n', 'f', 'i', 'n', 'i', 't', 'y'] then
    some (.infinite negative)
  else if word = ['n', 'a', 'n'] then some .notANumber
  else decimal? negative s

def ofChars? : List Char → Option Numeral
  | '-' :: s => unsigned? true s
  | '+' :: s => unsigned? false s
  | s => unsigned? false s

/-- The nearest number of single precision. -/
def toSingle : Numeral → Float32
  | .finite negative m e => Single.ofPattern negative (BinaryFormat.single.ofDecimal m e)
  | .infinite negative => Single.infinity negative
  | .notANumber => Single.nan

/-- The nearest number of double precision, brought to single precision: rounded
twice, as a reader of double-precision formats does. -/
def toSingleViaDouble : Numeral → Float32
  | .finite negative m e => Single.ofDouble negative (BinaryFormat.double.ofDecimal m e)
  | .infinite negative => Single.infinity negative
  | .notANumber => Single.nan

end Numeral

/-! ## Writing -/

/-- The last `width` digits of `n`, zeros in front. -/
def fixedDigits : Nat → Nat → List Char
  | 0, _ => []
  | width + 1, n => fixedDigits width (n / 10) ++ [Nat.digitChar (n % 10)]

/-- The decimal `c * 10 ^ k`, written positionally. -/
def positional (c : Nat) (k : Int) : List Char :=
  if 0 ≤ k then Nat.toDigits 10 (c * 10 ^ k.toNat)
  else
    let places := (-k).toNat
    Nat.toDigits 10 (c / 10 ^ places) ++ '.' :: fixedDigits places (c % 10 ^ places)

namespace Single

def ofChars? (s : List Char) : Option Float32 := (Numeral.ofChars? s).map Numeral.toSingle

def ofString? (s : String) : Option Float32 := ofChars? s.toList

/-- The text without its sign. -/
def magnitudeChars (b : Nat) : List Char :=
  if b = BinaryFormat.single.top then ['i', 'n', 'f']
  else
    let (c, k) := BinaryFormat.single.shortest b
    positional c k

/-- The shortest text that reads back.  A not-a-number shows no sign, a zero does. -/
def toChars (x : Float32) : List Char :=
  if x.isNaN then ['N', 'a', 'N']
  else if isNegative x then '-' :: magnitudeChars (magnitude x)
  else magnitudeChars (magnitude x)

def toText (x : Float32) : String := String.ofList (toChars x)

end Single

end SkinLayout
