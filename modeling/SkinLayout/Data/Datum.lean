import SkinLayout.Json.Basic
import SkinLayout.Toml.Basic
/-!
# Plain data

What configuration files and records give before it is known what it is for:
numbers, texts, lists and named fields.  Both file formats are read into this one
form, so each type has one reader.

Numbers with a fraction have single precision.  They are rounded to double
precision first, as the formats define them so.
-/
namespace SkinLayout

inductive Datum where
  | null
  | flag (b : Bool)
  | integer (n : Int)
  | number (x : Float32)
  | text (s : String)
  /-- An exact list that stands for a record is no longer than the record. -/
  | list (exact : Bool) (items : List Datum)
  | fields (members : List (String × Datum))
  /-- What no record holds: dates and times. -/
  | other
  deriving Inhabited

/-- The nearest number of single precision. -/
def Single.ofInt (n : Int) : Float32 := ofPattern (n < 0) (BinaryFormat.single.nearest n.natAbs 1)

namespace Datum

/-! ## From the file formats -/

/-- A JSON number.  Whole ones of 64 bits are integers; a negative zero is none. -/
def ofNumber (negative : Bool) (digits : Nat) (exponent : Int) (whole : Bool) : Datum :=
  if whole ∧ !negative ∧ digits < 2 ^ 64 then .integer digits
  else if whole ∧ negative ∧ digits ≠ 0 ∧ digits ≤ 2 ^ 63 then .integer (-digits)
  else .number (Numeral.finite negative digits exponent).toSingleViaDouble

mutual

def ofJson : Json → Datum
  | .null => .null
  | .bool b => .flag b
  | .number negative digits exponent whole => ofNumber negative digits exponent whole
  | .string s => .text s
  | .array items => .list true (ofJsonItems items)
  | .object members => .fields (ofJsonMembers members)

def ofJsonItems : List Json → List Datum
  | [] => []
  | v :: vs => ofJson v :: ofJsonItems vs

def ofJsonMembers : List (String × Json) → List (String × Datum)
  | [] => []
  | (name, v) :: ms => (name, ofJson v) :: ofJsonMembers ms

end

mutual

def ofToml : Toml → Datum
  | .string s => .text s
  | .integer n => .integer n
  | .float x => .number x.toSingleViaDouble
  | .bool b => .flag b
  | .moment => .other
  | .array items => .list false (ofTomlItems items)
  | .table _ entries => .fields (ofTomlEntries entries)
  | .tables items => .list false (ofTomlTables items)

def ofTomlItems : List Toml → List Datum
  | [] => []
  | v :: vs => ofToml v :: ofTomlItems vs

def ofTomlEntries : List (String × Toml) → List (String × Datum)
  | [] => []
  | (key, v) :: es => (key, ofToml v) :: ofTomlEntries es

def ofTomlTables : List (List (String × Toml)) → List Datum
  | [] => []
  | t :: ts => .fields (ofTomlEntries t) :: ofTomlTables ts

end

/-! ## Writing values -/

def ofOption {α : Type} (write : α → Datum) : Option α → Datum
  | none => .null
  | some a => write a

/-! ## Reading values -/

def float? : Datum → Option Float32
  | .integer n => some (Single.ofInt n)
  | .number x => some x
  | _ => none

def natural? : Datum → Option Nat
  | .integer n => if 0 ≤ n then some n.toNat else none
  | _ => none

def flag? : Datum → Option Bool
  | .flag b => some b
  | _ => none

def text? : Datum → Option String
  | .text s => some s
  | _ => none

def list? {α : Type} (read : Datum → Option α) : Datum → Option (List α)
  | .list _ items => items.mapM read
  | _ => none

/-- A value that may be null. -/
def nullable? {α : Type} (read : Datum → Option α) : Datum → Option (Option α)
  | .null => some none
  | d => (read d).map some

/-! ## Reading records -/

def fields? : Datum → Option (List (String × Datum))
  | .fields members => some members
  | _ => none

/-- A record, by the names of its fields in order.  Its fields may also be given
without their names as a list, of which the first `least` must be there. -/
def record? (least : Nat) (names : List String) : Datum → Option (List (String × Datum))
  | .list exact items =>
    if least ≤ items.length ∧ (exact → items.length ≤ names.length) then some (names.zip items)
    else none
  | d => d.fields?

/-- The last field of that name. -/
def lookup? (name : String) (members : List (String × Datum)) : Option Datum :=
  (members.reverse.find? fun m => m.1 == name).map Prod.snd

/-- A field that must be there. -/
def required? {α : Type} (read : Datum → Option α) (name : String)
    (members : List (String × Datum)) : Option α := (lookup? name members).bind read

/-- A field that may be missing. -/
def fieldD? {α : Type} (read : Datum → Option α) (default : α) (name : String)
    (members : List (String × Datum)) : Option α :=
  match lookup? name members with
  | none => some default
  | some d => read d

/-- A field that may be missing or null. -/
def optional? {α : Type} (read : Datum → Option α) (name : String)
    (members : List (String × Datum)) : Option (Option α) :=
  fieldD? (nullable? read) none name members

/-! ## Reading choices -/

/-- The name of a case, and what is given with it. -/
def case? : Datum → Option (String × Option Datum)
  | .text s => some (s, none)
  | .fields [(name, d)] => some (name, some d)
  | _ => none

/-- A case that nothing is given with. -/
def bareCase? (d : Datum) : Option String :=
  match case? d with
  | some (name, none) => some name
  | some (name, some .null) => some name
  | _ => none

end Datum

end SkinLayout
