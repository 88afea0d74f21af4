import SkinLayout.Unified.Basic
import SkinLayout.Number.Decimal
import SkinLayout.Text.Blank
import SkinLayout.Text.Split
/-!
# The text form of unified values

A length is `{scale,offset}`.  Points and sizes are two lengths in a further pair
of braces, rectangles are four: left, top, right, bottom.  Reading is lenient
about blanks everywhere and about the commas between lengths, of which any may be
left out; writing has no blanks and all commas.

A length ends at its closing brace, so the inside of an aggregate is first cut at
those braces: every piece but the last lacks only its brace to be a length, and
the last has to be empty.
-/
namespace SkinLayout

/-- Why a text is not a unified value. -/
inductive UnifiedFault where
  | missingBraces (text : String)
  | componentCount (expected found : Nat)
  | invalidNumber (text : String)
  deriving DecidableEq, Repr

def UnifiedFault.message : UnifiedFault → String
  | .missingBraces text => "expected a braced value, found `" ++ text ++ "`"
  | .componentCount expected found =>
    "expected " ++ expected.repr ++ " components, found " ++ found.repr
  | .invalidNumber text => "invalid number `" ++ text ++ "`"

namespace Unified

/-! ## Pieces of text -/

/-- What stands between the outermost braces. -/
def unbrace (s : List Char) : Except UnifiedFault (List Char) :=
  let t := trim s
  match t with
  | '{' :: inner =>
    if inner.getLast? = some '}' then .ok inner.dropLast
    else .error (.missingBraces (String.ofList t))
  | _ => .error (.missingBraces (String.ofList t))

def readNumber (s : List Char) : Except UnifiedFault Float32 :=
  match Single.ofChars? (trim s) with
  | some x => .ok x
  | none => .error (.invalidNumber (String.ofList (trim s)))

/-! ## Reading -/

/-- Reads one length. -/
def ofChars (s : List Char) : Except UnifiedFault Unified := do
  let inner ← unbrace s
  match splitAt ',' inner with
  | [a, b] =>
    let scale ← readNumber a
    let offset ← readNumber b
    .ok ⟨scale, offset⟩
  | pieces => .error (.componentCount 2 pieces.length)

/-- Drops what may stand between two lengths: blanks and one comma. -/
def skipSeparator (s : List Char) : List Char :=
  match trimLeft s with
  | ',' :: t => trimLeft t
  | t => t

/-- Reads the pieces of an aggregate.  `skip` drops what may stand in front of the
first of them. -/
def ofPieces (skip : List Char → List Char) : List (List Char) → Except UnifiedFault (List Unified)
  | [] => .ok []
  | [rest] =>
    if skip rest = [] then .ok [] else .error (.missingBraces (String.ofList (skip rest)))
  | piece :: pieces => do
    let u ← ofChars (skip piece ++ ['}'])
    let us ← ofPieces skipSeparator pieces
    .ok (u :: us)

/-- The lengths in an aggregate, however many. -/
def groups (s : List Char) : Except UnifiedFault (List Unified) := do
  let inner ← unbrace s
  ofPieces id (splitAt '}' (trim inner))

end Unified

def Point.ofChars (s : List Char) : Except UnifiedFault (Point Unified) := do
  match ← Unified.groups s with
  | [x, y] => .ok ⟨x, y⟩
  | us => .error (.componentCount 2 us.length)

def Size.ofChars (s : List Char) : Except UnifiedFault (Size Unified) := do
  match ← Unified.groups s with
  | [width, height] => .ok ⟨width, height⟩
  | us => .error (.componentCount 2 us.length)

def UnifiedRect.ofChars (s : List Char) : Except UnifiedFault UnifiedRect := do
  match ← Unified.groups s with
  | [left, top, right, bottom] => .ok (.ofEdges left top right bottom)
  | us => .error (.componentCount 4 us.length)

/-! ## Writing -/

/-- Puts braces around texts and commas between them. -/
def braced (parts : List (List Char)) : List Char :=
  '{' :: (List.intercalate [','] parts ++ ['}'])

def Unified.toChars (u : Unified) : List Char :=
  braced [Single.toChars u.scale, Single.toChars u.offset]

def Point.toChars (p : Point Unified) : List Char := braced [p.x.toChars, p.y.toChars]

def Size.toChars (s : Size Unified) : List Char := braced [s.width.toChars, s.height.toChars]

def UnifiedRect.toChars (r : UnifiedRect) : List Char :=
  braced [r.min.x.toChars, r.min.y.toChars, r.max.x.toChars, r.max.y.toChars]

end SkinLayout
