import SkinLayout.Toml.Basic
/-!
# Putting a document together

Lines are taken one by one into the document.  Nothing may be set twice; a header
may name a table once, though tables on the way to it may have been there; and a
key with dots may only add to tables that keys with dots have made.
-/
namespace SkinLayout

namespace Toml

abbrev Entries := List (String × Toml)

/-- Applies `f` to the last of a list. -/
def onLast (f : Entries → Option Entries) : List Entries → Option (List Entries)
  | [] => none
  | [t] => (f t).map fun t => [t]
  | t :: ts => (onLast f ts).map fun ts => t :: ts

/-! ## Going down -/

/-- Goes down by keys and applies `f` there.  `make` is what a table on the way
becomes if it is not there yet, and `enter` says which tables may be entered.
Of an array of tables the last is entered. -/
def under (make : TableOrigin) (enter : TableOrigin → Bool)
    (f : TableOrigin → Entries → Option Entries) :
    List String → TableOrigin → Entries → Option Entries
  | [], origin, t => f origin t
  | key :: path, _, t =>
    let below := under make enter f path
    match entry? key t with
    | none => (below make []).map fun u => setEntry key (.table make u) t
    | some (.table origin u) =>
      if enter origin then (below origin u).map fun u => setEntry key (.table origin u) t else none
    | some (.tables us) => (onLast (below .header) us).map fun us => setEntry key (.tables us) t
    | some _ => none

/-! ## Keys -/

/-- Sets a key that is not there. -/
def addNew (key : String) (v : Toml) (t : Entries) : Option Entries :=
  match entry? key t with
  | none => some (setEntry key v t)
  | some _ => none

/-- Adds a pair.  Only tables that dots have made are added to by dots. -/
def addPair (path : List String) (key : String) (v : Toml) (t : Entries) : Option Entries :=
  match path with
  | [] => addNew key v t
  | path =>
    under .dotted (fun o => o = .dotted ∨ o = .implied)
      (fun o t => if o = .dotted then addNew key v t else none) path .header t

/-- The table of pairs written between braces. -/
def ofPairs (pairs : List (List String × String × Toml)) : Option Toml :=
  (pairs.foldlM (fun t p => addPair p.1 p.2.1 p.2.2 t) []).map (.table .inPlace)

/-! ## Headers -/

/-- Names a table: a new one, or one that so far was only on the way. -/
def addHeader (key : String) (t : Entries) : Option Entries :=
  match entry? key t with
  | none => some (setEntry key (.table .header []) t)
  | some (.table .implied u) => some (setEntry key (.table .header u) t)
  | some _ => none

/-- Adds a table to an array of tables. -/
def addElement (key : String) (t : Entries) : Option Entries :=
  match entry? key t with
  | none => some (setEntry key (.tables [[]]) t)
  | some (.tables us) => some (setEntry key (.tables (us ++ [[]])) t)
  | some _ => none

/-- Applies `f` to the table that a header's path leads to. -/
def atHeader (f : Entries → Option Entries) (path : List String) (t : Entries) : Option Entries :=
  under .implied (fun o => o ≠ .inPlace) (fun _ t => f t) path .header t

/-! ## Lines -/

/-- Takes a line into a document; `current` is the path of the table that pairs
belong to. -/
def addLine (current : List String) (t : Entries) : TomlLine → Option (List String × Entries)
  | .pair path key v => (atHeader (addPair path key v) current t).map fun t => (current, t)
  | .header path key => (atHeader (addHeader key) path t).map fun t => (path ++ [key], t)
  | .element path key => (atHeader (addElement key) path t).map fun t => (path ++ [key], t)

def ofLines (current : List String) (t : Entries) : List TomlLine → Option Entries
  | [] => some t
  | l :: ls => do
    let (current, t) ← addLine current t l
    ofLines current t ls

end Toml

end SkinLayout
