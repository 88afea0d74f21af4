import SkinLayout.Markup.Element
import SkinLayout.Outcome
/-!
# Writing markup as text

Every tag starts a line, indented by two blanks for each tag around it; a tag that
closes with nothing inside closes itself.  Attribute values are escaped, line
breaks and tabs included, so that a value is on one line and cannot end early.
-/
namespace SkinLayout

/-! ## Escaping -/

def escapedChar : Char → List Char
  | '&' => ['&', 'a', 'm', 'p', ';']
  | '<' => ['&', 'l', 't', ';']
  | '>' => ['&', 'g', 't', ';']
  | '"' => ['&', 'q', 'u', 'o', 't', ';']
  | '\'' => ['&', 'a', 'p', 'o', 's', ';']
  | '\n' => ['&', '#', '1', '0', ';']
  | '\r' => ['&', '#', '1', '3', ';']
  | '\t' => ['&', '#', '9', ';']
  | c => [c]

def escaped (s : String) : String := String.ofList (s.toList.flatMap escapedChar)

/-! ## The writer -/

/-- Text so far, the names of the open tags, innermost first, and whether the
innermost can still take attributes. -/
structure Writer where
  text : String
  stack : List String
  tagOpen : Bool

namespace Writer

def empty : Writer := ⟨"", [], false⟩

def indent (depth : Nat) : String := String.ofList (List.replicate (2 * depth) ' ')

/-- The end of a tag that gets content. -/
def sealed (w : Writer) : String := if w.tagOpen then w.text ++ ">\n" else w.text

def call (w : Writer) : Call → Logged Writer
  | .opens name =>
    pure ⟨w.sealed ++ indent w.stack.length ++ "<" ++ name, name :: w.stack, true⟩
  | .sets key value =>
    if w.tagOpen then
      pure { w with text := w.text ++ " " ++ key ++ "=\"" ++ escaped value ++ "\"" }
    else do
      Logged.report (.strayAttribute key)
      return w
  | .closes =>
    match w.stack with
    | [] => do
      Logged.report .strayClose
      return w
    | name :: stack =>
      if w.tagOpen then pure ⟨w.text ++ "/>\n", stack, false⟩
      else pure ⟨w.text ++ indent stack.length ++ "</" ++ name ++ ">\n", stack, false⟩

/-- Makes the calls in order. -/
def run (w : Writer) : List Call → Logged Writer
  | [] => pure w
  | c :: cs => do
    let w ← w.call c
    w.run cs

end Writer

/-- The text of a sequence of calls. -/
def Call.render (cs : List Call) : Logged String := do
  let w ← Writer.empty.run cs
  return w.text

end SkinLayout
