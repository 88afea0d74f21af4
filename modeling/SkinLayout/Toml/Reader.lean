import SkinLayout.Toml.Build
import SkinLayout.Toml.Scalar
/-!
# Reading TOML

A document is read line by line, each line into a pair or a header, and then put
together.  Values may nest, arrays and tables together, to fewer than eighty
levels, and a key may have fewer than eighty parts.
-/
namespace SkinLayout

namespace Toml

/-- The number of levels, and of parts of a key, that is too many. -/
def nestingLimit : Nat := 80

/-! ## Keys -/

def isBare (c : Char) : Bool := c.isAlphanum || c == '_' || c == '-'

def keyPart? (s : List Char) : Option (String × List Char) :=
  match s with
  | '"' :: _ => basicString? s
  | '\'' :: _ => literalString? s
  | s =>
    let (name, s) := s.span isBare
    if name = [] then none else some (String.ofList name, s)

/-- The parts of a key; the number bounds how many. -/
def keyParts? : Nat → List Char → Option (List String × List Char)
  | 0, _ => none
  | n + 1, s => do
    let (part, s) ← keyPart? (skipSpaces s)
    match skipSpaces s with
    | '.' :: s =>
      let (parts, s) ← keyParts? n s
      return (part :: parts, s)
    | s => return ([part], s)

/-- A key, as the path in front of its last part, and that part. -/
def key? (s : List Char) : Option (List String × String × List Char) := do
  let (parts, s) ← keyParts? (nestingLimit - 1) s
  let last ← parts.getLast?
  return (parts.dropLast, last, s)

/-! ## Values

The first number bounds the steps, the second the levels. -/

mutual

def value? : Nat → Nat → List Char → Option (Toml × List Char)
  | 0, _, _ => none
  | n + 1, levels, s =>
    match s with
    | '[' :: s =>
      match levels with
      | 0 => none
      | levels + 1 => (items? n levels (skipFiller false s)).map fun (vs, s) => (.array vs, s)
    | '{' :: s =>
      match levels with
      | 0 => none
      | levels + 1 => do
        let (ps, s) ← pairs? n levels (skipSpaces s)
        let t ← ofPairs ps
        return (t, s)
    | '"' :: _ => (string? s).map fun (t, s) => (.string t, s)
    | '\'' :: _ => (string? s).map fun (t, s) => (.string t, s)
    | 't' :: 'r' :: 'u' :: 'e' :: s => some (.bool true, s)
    | 'f' :: 'a' :: 'l' :: 's' :: 'e' :: s => some (.bool false, s)
    | s => numeric? s

/-- The values of an array up to its bracket; a comma may stand behind the last. -/
def items? : Nat → Nat → List Char → Option (List Toml × List Char)
  | 0, _, _ => none
  | n + 1, levels, s =>
    match s with
    | ']' :: s => some ([], s)
    | s => do
      let (v, s) ← value? n levels s
      match skipFiller false s with
      | ',' :: s =>
        let (vs, s) ← items? n levels (skipFiller false s)
        return (v :: vs, s)
      | ']' :: s => return ([v], s)
      | _ => none

/-- The pairs of a table up to its brace; none may be missing behind a comma. -/
def pairs? : Nat → Nat → List Char → Option (List (List String × String × Toml) × List Char)
  | 0, _, _ => none
  | n + 1, levels, s =>
    match s with
    | '}' :: s => some ([], s)
    | s => do
      let (path, key, s) ← key? s
      let s ← skip? '=' s
      let (v, s) ← value? n levels (skipSpaces s)
      match skipSpaces s with
      | ',' :: s =>
        match skipSpaces s with
        | '}' :: _ => none
        | s =>
          let (ps, s) ← pairs? n levels s
          return ((path, key, v) :: ps, s)
      | '}' :: s => return ([(path, key, v)], s)
      | _ => none

end

/-! ## Lines -/

/-- The inside of a header up to its brackets. -/
def headerKey? (close : List Char) (s : List Char) : Option (List String × String × List Char) := do
  let (path, key, s) ← key? s
  if close.isPrefixOf s then
    let s ← lineEnd? (s.drop close.length)
    return (path, key, s)
  else none

def pairLine? (s : List Char) : Option (TomlLine × List Char) := do
  let (path, key, s) ← key? s
  let s ← skip? '=' s
  let s := skipSpaces s
  let (v, s) ← value? (2 * s.length + 2) (nestingLimit - 1) s
  let s ← lineEnd? s
  return (.pair path key v, s)

/-- The lines of a text; the number bounds how many. -/
def lines? : Nat → List Char → Option (List TomlLine)
  | 0, _ => none
  | n + 1, s =>
    match skipSpaces s with
    | [] => some []
    | '#' :: s => do
      let s ← lineEnd? ('#' :: s)
      lines? n s
    | '[' :: '[' :: s => do
      let (path, key, s) ← headerKey? [']', ']'] s
      let ls ← lines? n s
      return .element path key :: ls
    | '[' :: s => do
      let (path, key, s) ← headerKey? [']'] s
      let ls ← lines? n s
      return .header path key :: ls
    | s =>
      match newline? s with
      | some s => lines? n s
      | none => do
        let (l, s) ← pairLine? s
        let ls ← lines? n s
        return l :: ls

/-- A mark of the byte order at the start does not count. -/
def skipMark : List Char → List Char
  | '\uFEFF' :: s => s
  | s => s

def ofChars? (s : List Char) : Option Toml := do
  let ls ← lines? (s.length + 1) (skipMark s)
  let t ← ofLines [] [] ls
  return .table .header t

def ofString? (s : String) : Option Toml := ofChars? s.toList

end Toml

end SkinLayout
