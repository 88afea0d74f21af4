import SkinLayout.Number.Decimal
/-!
# TOML documents

A document is a table: keys with values, in order.  A table remembers how it came
about, because that decides what may still be added to it.
-/
namespace SkinLayout

/-- How a table came about. -/
inductive TableOrigin where
  /-- Written in place, between braces: complete. -/
  | inPlace
  /-- Named by a header. -/
  | header
  /-- On the way to a table that a header names. -/
  | implied
  /-- On the way to a key that is written with dots. -/
  | dotted
  deriving DecidableEq

inductive Toml where
  | string (s : String)
  | integer (n : Int)
  | float (x : Numeral)
  | bool (b : Bool)
  /-- A date, a time or both. -/
  | moment
  | array (items : List Toml)
  | table (origin : TableOrigin) (entries : List (String × Toml))
  /-- The tables that one header names again and again. -/
  | tables (items : List (List (String × Toml)))
  deriving Inhabited

/-- A line of a document that says something. -/
inductive TomlLine where
  | pair (path : List String) (key : String) (value : Toml)
  | header (path : List String) (key : String)
  | element (path : List String) (key : String)

namespace Toml

def entry? (key : String) (entries : List (String × Toml)) : Option Toml :=
  (entries.find? fun e => e.1 == key).map Prod.snd

/-- Sets the value of a key, in its place if it is there and else at the end. -/
def setEntry (key : String) (v : Toml) : List (String × Toml) → List (String × Toml)
  | [] => [(key, v)]
  | e :: es => if e.1 = key then (key, v) :: es else e :: setEntry key v es

end Toml

end SkinLayout
