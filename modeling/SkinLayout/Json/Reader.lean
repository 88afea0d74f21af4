import SkinLayout.Json.Basic
import SkinLayout.Text.Hex
/-!
# Reading JSON

A reader by descent.  Every step into a value consumes a character, so the length
of the text bounds the steps, and `Json.ofString?` starts with that bound.
-/
namespace SkinLayout

namespace Json

/-! ## Blanks, digits and words -/

def skipBlanks : List Char → List Char
  | c :: s => if c = ' ' ∨ c = '\n' ∨ c = '\r' ∨ c = '\t' then skipBlanks s else c :: s
  | [] => []

/-- What follows `word`, if the text starts with it. -/
def after? (word : List Char) (s : List Char) : Option (List Char) :=
  if word.isPrefixOf s then some (s.drop word.length) else none

/-! ## Strings -/

def simpleEscape? : Char → Option Char
  | '"' => some '"'
  | '\\' => some '\\'
  | '/' => some '/'
  | 'b' => some '\x08'
  | 'f' => some '\x0c'
  | 'n' => some '\n'
  | 'r' => some '\r'
  | 't' => some '\t'
  | _ => none

/-- Adds an escaped 16-bit unit to what was read so far, last character first.
`high` is an unpaired first half in front of it. -/
def addUnit (acc : List Char) (high : Option Nat) (u : Nat) : Option (List Char × Option Nat) :=
  match high with
  | some h =>
    if 0xDC00 ≤ u ∧ u ≤ 0xDFFF then
      some (Char.ofNat (0x10000 + (h - 0xD800) * 0x400 + (u - 0xDC00)) :: acc, none)
    else none
  | none =>
    if 0xD800 ≤ u ∧ u ≤ 0xDBFF then some (acc, some u)
    else if 0xDC00 ≤ u ∧ u ≤ 0xDFFF then none
    else some (Char.ofNat u :: acc, none)

/-- Reads up to the closing quote. -/
def readString (acc : List Char) (high : Option Nat) : List Char → Option (String × List Char)
  | [] => none
  | '"' :: s => if high.isNone then some (String.ofList acc.reverse, s) else none
  | '\\' :: 'u' :: a :: b :: c :: d :: s =>
    match (ofDigits? 16 [a, b, c, d]).bind (addUnit acc high) with
    | some (acc, high) => readString acc high s
    | none => none
  | '\\' :: c :: s =>
    match simpleEscape? c with
    | some x => if high.isNone then readString (x :: acc) none s else none
    | none => none
  | c :: s => if high.isNone ∧ ' ' ≤ c then readString (c :: acc) none s else none

/-! ## Numbers -/

/-- Whether a run of digits has no needless zero in front. -/
def isPlainWhole (s : List Char) : Bool :=
  match s with
  | [] => false
  | ['0'] => true
  | c :: _ => c ≠ '0'

/-- Splits off an exponent, if there is one. -/
def readExponent (s : List Char) : Option (Option Int × List Char) :=
  match s with
  | c :: s' =>
    if c = 'e' ∨ c = 'E' then
      let (negative, s') := match s' with
        | '-' :: t => (true, t)
        | '+' :: t => (false, t)
        | t => (false, t)
      let (ds, rest) := s'.span Char.isDigit
      if ds = [] then none
      else
        let n : Int := Nat.ofDigitChars 10 ds 0
        some (some (if negative then -n else n), rest)
    else some (none, s)
  | [] => some (none, [])

def readNumber (s : List Char) : Option (Json × List Char) := do
  let (negative, s) := match s with
    | '-' :: t => (true, t)
    | t => (false, t)
  let (ds, s) := s.span Char.isDigit
  if isPlainWhole ds then
    let (part, s, point) := match s with
      | '.' :: t => let (p, t) := t.span Char.isDigit; (p, t, true)
      | t => ([], t, false)
    if point ∧ part = [] then none
    else
      let (e, s) ← readExponent s
      some (.number negative (Nat.ofDigitChars 10 (ds ++ part) 0) (e.getD 0 - part.length)
        (!point && e.isNone), s)
  else none

/-! ## Values -/

mutual

/-- Reads a value; the number bounds the steps. -/
def readValue : Nat → List Char → Option (Json × List Char)
  | 0, _ => none
  | n + 1, s =>
    match skipBlanks s with
    | '"' :: s => (readString [] none s).map fun (t, s) => (.string t, s)
    | '[' :: s =>
      match skipBlanks s with
      | ']' :: s => some (.array [], s)
      | s => (readItems n s).map fun (items, s) => (.array items, s)
    | '{' :: s =>
      match skipBlanks s with
      | '}' :: s => some (.object [], s)
      | s => (readMembers n s).map fun (ms, s) => (.object ms, s)
    | s =>
      match after? ['n', 'u', 'l', 'l'] s with
      | some s => some (.null, s)
      | none =>
        match after? ['t', 'r', 'u', 'e'] s with
        | some s => some (.bool true, s)
        | none =>
          match after? ['f', 'a', 'l', 's', 'e'] s with
          | some s => some (.bool false, s)
          | none => readNumber s

/-- Reads the rest of an array, from a value on. -/
def readItems : Nat → List Char → Option (List Json × List Char)
  | 0, _ => none
  | n + 1, s =>
    match readValue n s with
    | none => none
    | some (v, s) =>
      match skipBlanks s with
      | ',' :: s => (readItems n s).map fun (vs, s) => (v :: vs, s)
      | ']' :: s => some ([v], s)
      | _ => none

/-- Reads the rest of an object, from a name on. -/
def readMembers : Nat → List Char → Option (List (String × Json) × List Char)
  | 0, _ => none
  | n + 1, s =>
    match skipBlanks s with
    | '"' :: s =>
      match readString [] none s with
      | none => none
      | some (name, s) =>
        match skipBlanks s with
        | ':' :: s =>
          match readValue n s with
          | none => none
          | some (v, s) =>
            match skipBlanks s with
            | ',' :: s => (readMembers n s).map fun (ms, s) => ((name, v) :: ms, s)
            | '}' :: s => some ([(name, v)], s)
            | _ => none
        | _ => none
    | _ => none

end

def ofChars? (s : List Char) : Option Json :=
  match readValue (2 * s.length + 2) s with
  | some (v, rest) => if skipBlanks rest = [] then some v else none
  | none => none

def ofString? (s : String) : Option Json := ofChars? s.toList

end Json

end SkinLayout
