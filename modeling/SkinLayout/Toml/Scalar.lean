import SkinLayout.Toml.Basic
import SkinLayout.Text.Hex
/-!
# Strings, numbers and dates of TOML

Each reader takes what it reads off the front of a text and gives the rest.
-/
namespace SkinLayout

namespace Toml

/-! ## Blanks, line ends and comments -/

def isSpace (c : Char) : Bool := c == ' ' || c == '\t'

def skipSpaces (s : List Char) : List Char := s.dropWhile isSpace

def isComment (c : Char) : Bool := c == '\t' || (0x20 ≤ c.toNat && c.toNat != 0x7F)

def newline? : List Char → Option (List Char)
  | '\n' :: s => some s
  | '\x0d' :: '\n' :: s => some s
  | _ => none

/-- The end of a line: spaces, a comment, and the line break or the end of the
text. -/
def lineEnd? (s : List Char) : Option (List Char) :=
  let s := match skipSpaces s with
    | '#' :: t => t.dropWhile isComment
    | t => t
  match s with
  | [] => some []
  | s => newline? s

/-- Drops spaces, line breaks and comments. -/
def skipFiller (inComment : Bool) : List Char → List Char
  | [] => []
  | '\n' :: s => skipFiller false s
  | '\x0d' :: '\n' :: s => skipFiller false s
  | c :: s =>
    if inComment then if isComment c then skipFiller true s else c :: s
    else if isSpace c then skipFiller false s
    else if c = '#' then skipFiller true s
    else c :: s

/-! ## Strings -/

/-- What may stand for itself between double quotes. -/
def isPlain (c : Char) : Bool :=
  c == '\t' || (0x20 ≤ c.toNat && c.toNat ≤ 0x7E && c != '"' && c != '\\') || 0x80 ≤ c.toNat

/-- What may stand between single quotes. -/
def isVerbatim (c : Char) : Bool :=
  c == '\t' || (0x20 ≤ c.toNat && c.toNat ≤ 0x7E && c != '\'') || 0x80 ≤ c.toNat

def escape? : Char → Option Char
  | 'b' => some '\x08'
  | 't' => some '\t'
  | 'n' => some '\n'
  | 'f' => some '\x0c'
  | 'r' => some '\x0d'
  | '"' => some '"'
  | '\\' => some '\\'
  | _ => none

def charOfHex? (s : List Char) : Option Char := (ofDigits? 16 s).bind char?

/-- The inside of a string on one line; `acc` is what was read, last first. -/
def basicBody (acc : List Char) : List Char → Option (String × List Char)
  | [] => none
  | '"' :: s => some (String.ofList acc.reverse, s)
  | '\\' :: 'u' :: a :: b :: c :: d :: s =>
    match charOfHex? [a, b, c, d] with
    | some x => basicBody (x :: acc) s
    | none => none
  | '\\' :: 'U' :: a :: b :: c :: d :: e :: f :: g :: h :: s =>
    match charOfHex? [a, b, c, d, e, f, g, h] with
    | some x => basicBody (x :: acc) s
    | none => none
  | '\\' :: c :: s =>
    match escape? c with
    | some x => basicBody (x :: acc) s
    | none => none
  | c :: s => if isPlain c then basicBody (c :: acc) s else none

/-- Quotes that stand directly before the three closing ones. -/
def trailingQuotes (q : Char) (s : List Char) : List Char × List Char :=
  match s with
  | c :: d :: t => if c = q then if d = q then ([q, q], t) else ([q], d :: t) else ([], c :: d :: t)
  | [c] => if c = q then ([q], []) else ([], [c])
  | [] => ([], [])

/-- Whether a backslash here ends the line for good: only spaces follow it. -/
def endsLine (s : List Char) : Bool := (newline? (skipSpaces s)).isSome

/-- The inside of a string over several lines.  After a backslash at the end of a
line all blanks are skipped, `skipping` says. -/
def longBasicBody (skipping : Bool) (acc : List Char) : List Char → Option (String × List Char)
  | [] => none
  | '\n' :: s => longBasicBody skipping (if skipping then acc else '\n' :: acc) s
  | '\x0d' :: '\n' :: s => longBasicBody skipping (if skipping then acc else '\n' :: acc) s
  | '"' :: '"' :: '"' :: s =>
    let (more, s) := trailingQuotes '"' s
    some (String.ofList (acc.reverse ++ more), s)
  | '"' :: s => longBasicBody false ('"' :: acc) s
  | '\\' :: 'u' :: a :: b :: c :: d :: s =>
    match charOfHex? [a, b, c, d] with
    | some x => longBasicBody false (x :: acc) s
    | none => none
  | '\\' :: 'U' :: a :: b :: c :: d :: e :: f :: g :: h :: s =>
    match charOfHex? [a, b, c, d, e, f, g, h] with
    | some x => longBasicBody false (x :: acc) s
    | none => none
  | '\\' :: c :: s =>
    if endsLine (c :: s) then longBasicBody true acc (c :: s)
    else
      match escape? c with
      | some x => longBasicBody false (x :: acc) s
      | none => none
  | c :: s =>
    if skipping ∧ isSpace c then longBasicBody true acc s
    else if isPlain c then longBasicBody false (c :: acc) s
    else none

def literalBody (s : List Char) : Option (String × List Char) :=
  let (t, s) := s.span isVerbatim
  match s with
  | '\'' :: s => some (String.ofList t, s)
  | _ => none

def longLiteralBody (acc : List Char) : List Char → Option (String × List Char)
  | [] => none
  | '\n' :: s => longLiteralBody ('\n' :: acc) s
  | '\x0d' :: '\n' :: s => longLiteralBody ('\n' :: acc) s
  | '\'' :: '\'' :: '\'' :: s =>
    let (more, s) := trailingQuotes '\'' s
    some (String.ofList (acc.reverse ++ more), s)
  | '\'' :: s => longLiteralBody ('\'' :: acc) s
  | c :: s => if isVerbatim c then longLiteralBody (c :: acc) s else none

/-- A line break right behind the opening quotes does not count. -/
def skipNewline (s : List Char) : List Char := (newline? s).getD s

/-- A string in double quotes on one line. -/
def basicString? : List Char → Option (String × List Char)
  | '"' :: s => basicBody [] s
  | _ => none

def literalString? : List Char → Option (String × List Char)
  | '\'' :: s => literalBody s
  | _ => none

def string? : List Char → Option (String × List Char)
  | '"' :: '"' :: '"' :: s => longBasicBody false [] (skipNewline s)
  | '\'' :: '\'' :: '\'' :: s => longLiteralBody [] (skipNewline s)
  | '\'' :: s => literalBody s
  | s => basicString? s

/-! ## Numbers -/

/-- The rest of a run of digits; an underscore has digits on both sides. -/
def digitsTail (isDigit : Char → Bool) : List Char → Option (List Char × List Char)
  | [] => some ([], [])
  | '_' :: c :: s =>
    if isDigit c then (digitsTail isDigit s).map fun (ds, s) => (c :: ds, s) else none
  | c :: s =>
    if isDigit c then (digitsTail isDigit s).map fun (ds, s) => (c :: ds, s) else some ([], c :: s)

def digits? (isDigit : Char → Bool) : List Char → Option (List Char × List Char)
  | c :: s => if isDigit c then (digitsTail isDigit s).map fun (ds, s) => (c :: ds, s) else none
  | [] => none

def sign : List Char → Bool × List Char
  | '-' :: s => (true, s)
  | '+' :: s => (false, s)
  | s => (false, s)

/-- Digits without needless zeros in front. -/
def wholeDigits? : List Char → Option (List Char × List Char)
  | '0' :: s => some (['0'], s)
  | s => digits? Char.isDigit s

def fractionPart? : List Char → Option (List Char × List Char)
  | '.' :: s => digits? Char.isDigit s
  | s => some ([], s)

def exponentPart? : List Char → Option (Option Int × List Char)
  | c :: s =>
    if c = 'e' ∨ c = 'E' then
      let (negative, s) := sign s
      (digits? Char.isDigit s).map fun (ds, s) =>
        let n : Int := Nat.ofDigitChars 10 ds 0
        (some (if negative then -n else n), s)
    else some (none, c :: s)
  | [] => some (none, [])

/-- Whole numbers have 64 bits. -/
def integer? (n : Int) : Option Toml := if -2 ^ 63 ≤ n ∧ n < 2 ^ 63 then some (.integer n) else none

/-- A positive number too large for a double is refused. -/
def float? (negative : Bool) (digits : Nat) (exponent : Int) : Option Toml :=
  if !negative && BinaryFormat.double.ofDecimal digits exponent == BinaryFormat.double.top then none
  else some (.float (.finite negative digits exponent))

def decimal? (negative : Bool) (s : List Char) : Option (Toml × List Char) := do
  let (whole, s) ← wholeDigits? s
  let (part, s) ← fractionPart? s
  let (e, s) ← exponentPart? s
  let n := Nat.ofDigitChars 10 (whole ++ part) 0
  if part = [] ∧ e.isNone then
    let v ← integer? (if negative then -(n : Int) else n)
    return (v, s)
  else
    let v ← float? negative n (e.getD 0 - part.length)
    return (v, s)

/-- A number in another base. -/
def based? (base : Nat) (s : List Char) : Option (Toml × List Char) := do
  let (ds, s) ← digits? (fun c => (hexDigit? c).any fun d => d < base) s
  let n ← ofDigits? base ds
  let v ← integer? n
  return (v, s)

def number? (s : List Char) : Option (Toml × List Char) :=
  match s with
  | '0' :: 'x' :: t => based? 16 t
  | '0' :: 'o' :: t => based? 8 t
  | '0' :: 'b' :: t => based? 2 t
  | s =>
    let (negative, t) := sign s
    match t with
    | 'i' :: 'n' :: 'f' :: t => some (.float (.infinite negative), t)
    | 'n' :: 'a' :: 'n' :: t => some (.float .notANumber, t)
    | t => decimal? negative t

/-! ## Dates and times -/

/-- Exactly `n` digits, in a range. -/
def field? (n low high : Nat) (s : List Char) : Option (Nat × List Char) :=
  let ds := s.take n
  if ds.length = n ∧ ds.all Char.isDigit then
    let v := Nat.ofDigitChars 10 ds 0
    if low ≤ v ∧ v ≤ high then some (v, s.drop n) else none
  else none

def skip? (c : Char) : List Char → Option (List Char)
  | c' :: s => if c' = c then some s else none
  | [] => none

def daysIn (year month : Nat) : Nat :=
  if month = 2 then
    if year % 4 = 0 ∧ (year % 100 ≠ 0 ∨ year % 400 = 0) then 29 else 28
  else if month = 4 ∨ month = 6 ∨ month = 9 ∨ month = 11 then 30
  else 31

def date? (s : List Char) : Option (List Char) := do
  let (year, s) ← field? 4 0 9999 s
  let s ← skip? '-' s
  let (month, s) ← field? 2 1 12 s
  let s ← skip? '-' s
  let (_, s) ← field? 2 1 (daysIn year month) s
  return s

def time? (s : List Char) : Option (List Char) := do
  let (_, s) ← field? 2 0 23 s
  let s ← skip? ':' s
  let (_, s) ← field? 2 0 59 s
  let s ← skip? ':' s
  let (_, s) ← field? 2 0 60 s
  match s with
  | '.' :: t =>
    let (ds, t) := t.span Char.isDigit
    if ds = [] then none else some t
  | s => some s

def zone? (s : List Char) : Option (List Char) :=
  match s with
  | c :: t =>
    if c = 'Z' ∨ c = 'z' then some t
    else if c = '+' ∨ c = '-' then do
      let (_, t) ← field? 2 0 23 t
      let t ← skip? ':' t
      let (_, t) ← field? 2 0 59 t
      return t
    else some (c :: t)
  | [] => some []

/-- Whether a text starts with that many digits and then the character. -/
def startsField (n : Nat) (c : Char) (s : List Char) : Bool :=
  (s.take n).length == n && (s.take n).all Char.isDigit && (s.drop n).head? == some c

/-- A date may be followed by a time, and that by a zone. -/
def moment? (s : List Char) : Option (Toml × List Char) :=
  if startsField 4 '-' s then do
    let s ← date? s
    match s with
    | c :: t =>
      if (c = 'T' ∨ c = 't' ∨ c = ' ') ∧ startsField 2 ':' t then do
        let t ← time? t
        let t ← zone? t
        return (.moment, t)
      else return (.moment, s)
    | [] => return (.moment, [])
  else do
    let s ← time? s
    return (.moment, s)

/-- A number, a date or a time. -/
def numeric? (s : List Char) : Option (Toml × List Char) :=
  if startsField 4 '-' s ∨ startsField 2 ':' s then moment? s else number? s

end Toml

end SkinLayout
