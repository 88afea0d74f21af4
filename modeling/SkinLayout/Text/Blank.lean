/-!
# Blanks

The characters of Unicode's `White_Space` property, and cutting them off the ends
of a text.  `Char.isWhitespace` of the core library knows four of them only.
-/
namespace SkinLayout

/-- The `White_Space` property. -/
def isBlank (c : Char) : Bool :=
  let n := c.toNat
  (0x9 ≤ n && n ≤ 0xD) || n == 0x20 || n == 0x85 || n == 0xA0 || n == 0x1680 ||
    (0x2000 ≤ n && n ≤ 0x200A) || n == 0x2028 || n == 0x2029 || n == 0x202F || n == 0x205F ||
    n == 0x3000

/-! ## Trimming -/

def trimLeft (s : List Char) : List Char := s.dropWhile isBlank

def trimRight (s : List Char) : List Char := (s.reverse.dropWhile isBlank).reverse

def trim (s : List Char) : List Char := trimRight (trimLeft s)

/-- A text without the blanks around it. -/
def trimmed (s : String) : String := String.ofList (trim s.toList)

end SkinLayout
