import SkinLayout.Markup.Element
import SkinLayout.Outcome
import SkinLayout.Text.Blank
/-!
# Reading attributes

Of several attributes of one key the first counts.  A value is read without the
blanks around it, but an error shows it as it stands.
-/
namespace SkinLayout

namespace Element

def attribute? (e : Element) (key : String) : Option String :=
  (e.attributes.find? fun a => a.1 == key).map Prod.snd

/-- The value of an attribute that may be left out; an empty one counts as left
out. -/
def optional? (e : Element) (key : String) : Option String :=
  (e.attribute? key).filter fun v => v ≠ ""

def required (e : Element) (key : String) : Except LayoutError String :=
  match e.attribute? key with
  | some v => .ok v
  | none => .error (.missingAttribute e.name key)

def invalid (e : Element) (key value : String) : LayoutError :=
  .invalidAttribute e.name key value

def expectName (e : Element) (name : String) : Except LayoutError Unit :=
  if e.name = name then .ok () else .error (.unexpectedElement name e.name)

/-! ## Numbers -/

def readFloat (e : Element) (key raw : String) : Except LayoutError Float32 :=
  match Single.ofChars? (trim raw.toList) with
  | some x => .ok x
  | none => .error (e.invalid key raw)

def float (e : Element) (key : String) : Except LayoutError Float32 := do
  let raw ← e.required key
  e.readFloat key raw

def floatD (e : Element) (key : String) (default : Float32) : Except LayoutError Float32 :=
  match e.attribute? key with
  | some raw => e.readFloat key raw
  | none => .ok default

end Element

end SkinLayout
