import SkinLayout.Json.Basic
/-!
# Writing JSON

Values are written on one line, without blanks.  Characters below the blank are
escaped, and so are the quote and the backslash; all else stands for itself.
-/
namespace SkinLayout

namespace Json

def escapeChar (c : Char) : List Char :=
  if c = '"' then ['\\', '"']
  else if c = '\\' then ['\\', '\\']
  else if c < ' ' then
    ['\\', 'u', '0', '0', Nat.digitChar (c.toNat / 16), Nat.digitChar (c.toNat % 16)]
  else [c]

def quote (s : String) : String :=
  String.ofList ('"' :: (s.toList.flatMap escapeChar ++ ['"']))

def renderNumber (negative : Bool) (digits : Nat) (exponent : Int) (whole : Bool) : String :=
  (if negative then "-" else "") ++ digits.repr ++
    (if whole then "" else "e" ++ exponent.repr)

mutual

def render : Json → String
  | .null => "null"
  | .bool b => if b then "true" else "false"
  | .number negative digits exponent whole => renderNumber negative digits exponent whole
  | .string s => quote s
  | .array items => "[" ++ renderItems items ++ "]"
  | .object members => "\x7b" ++ renderMembers members ++ "\x7d"

def renderItems : List Json → String
  | [] => ""
  | [v] => render v
  | v :: w :: vs => render v ++ "," ++ renderItems (w :: vs)

def renderMembers : List (String × Json) → String
  | [] => ""
  | [m] => renderMember m
  | m :: n :: ms => renderMember m ++ "," ++ renderMembers (n :: ms)

def renderMember : String × Json → String
  | (name, v) => quote name ++ ":" ++ render v

end

end Json

end SkinLayout
