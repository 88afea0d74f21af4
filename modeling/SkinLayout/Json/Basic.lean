/-!
# JSON values

Numbers keep what was written: sign, digits, exponent, and whether there was a
point or an exponent at all.  A reader of records needs that much, because a
count may not be written with a point, and a zero may be negative.
-/
namespace SkinLayout

inductive Json where
  | null
  | bool (b : Bool)
  /-- The number `digits * 10 ^ exponent`, without its sign. -/
  | number (negative : Bool) (digits : Nat) (exponent : Int) (whole : Bool)
  | string (s : String)
  | array (items : List Json)
  | object (members : List (String × Json))
  deriving Inhabited

namespace Json

def ofNat (n : Nat) : Json := .number false n 0 true

/-- The last member of that name; nothing of a value that is no object. -/
def field? (name : String) : Json → Option Json
  | .object members => (members.reverse.find? fun m => m.1 == name).map Prod.snd
  | _ => none

def natural? : Json → Option Nat
  | .number false n _ true => some n
  | _ => none

end Json

end SkinLayout
