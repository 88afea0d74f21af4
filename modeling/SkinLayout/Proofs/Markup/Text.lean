import SkinLayout.Markup.Writer
import SkinLayout.Proofs.Markup.Collect
/-!
# The text of elements

A writer decides by a flag and a list of names whether a call makes sense, a builder by the elements
that are still open.  Every builder stands for a writer (`Builder.written`), and calls respect that,
stray ones included (`run_written`): what is written is the text of what is collected, as far as its
tags have ended.  So the text of a sequence of calls is the text of the elements it finishes.
-/
namespace SkinLayout

/-! ## Finished elements -/

def indentChars (depth : Nat) : List Char := List.replicate (2 * depth) ' '

/-- An attribute as it stands in a tag. -/
def attributeChars (a : String × String) : List Char :=
  ' ' :: (a.1.toList ++ '=' :: '"' :: ((escaped a.2).toList ++ ['"']))

/-- A tag with its attributes, up to where it ends. -/
def openingChars (depth : Nat) (name : String) (attributes : List (String × String)) : List Char :=
  indentChars depth ++ '<' :: (name.toList ++ attributes.flatMap attributeChars)

def closingChars (depth : Nat) (name : String) : List Char :=
  indentChars depth ++ '<' :: '/' :: (name.toList ++ ['>', '\n'])

namespace Element

mutual

/-- The text of an element that stands in `depth` others. -/
def chars (depth : Nat) : Element → List Char
  | ⟨name, attributes, children⟩ =>
    openingChars depth name attributes ++
      if children.isEmpty then ['/', '>', '\n']
      else '>' :: '\n' :: (charsOfAll (depth + 1) children ++ closingChars depth name)

def charsOfAll (depth : Nat) : List Element → List Char
  | [] => []
  | e :: es => e.chars depth ++ charsOfAll depth es

end

theorem charsOfAll_append (depth : Nat) (es fs : List Element) :
    charsOfAll depth (es ++ fs) = charsOfAll depth es ++ charsOfAll depth fs := by
  induction es with
  | nil => rfl
  | cons e es ih => rw [List.cons_append, charsOfAll, charsOfAll, ih, List.append_assoc]

theorem charsOfAll_singleton (depth : Nat) (e : Element) : charsOfAll depth [e] = e.chars depth :=
  List.append_nil _

/-! ## Open elements -/

/-- An element whose tag has ended, up to where its own end or more children come. -/
def begunChars (depth : Nat) (e : Element) : List Char :=
  openingChars depth e.name e.attributes ++ '>' :: '\n' :: charsOfAll (depth + 1) e.children

/-- Open elements, innermost first, whose tags have all ended. -/
def begunCharsOfAll : List Element → List Char
  | [] => []
  | e :: outer => begunCharsOfAll outer ++ e.begunChars outer.length

/-- Open elements, innermost first.  The innermost tag does not end before it has a child. -/
def openCharsOfAll : List Element → List Char
  | [] => []
  | ⟨name, attributes, []⟩ :: outer =>
    begunCharsOfAll outer ++ openingChars outer.length name attributes
  | stack => begunCharsOfAll stack

theorem begunCharsOfAll_push (parent e : Element) (outer : List Element) :
    begunCharsOfAll ({ parent with children := parent.children ++ [e] } :: outer) =
      begunCharsOfAll (parent :: outer) ++ e.chars (outer.length + 1) := by
  simp only [begunCharsOfAll, begunChars, charsOfAll_append, charsOfAll_singleton,
    List.append_assoc, List.cons_append]

theorem openCharsOfAll_push (parent e : Element) (outer : List Element) :
    openCharsOfAll ({ parent with children := parent.children ++ [e] } :: outer) =
      begunCharsOfAll (parent :: outer) ++ e.chars (outer.length + 1) := by
  rw [← begunCharsOfAll_push]
  cases h : parent.children ++ [e] with
  | nil => simp at h
  | cons c cs => rfl

end Element

/-! ## The writer of a builder -/

/-- The tags that a sequence of calls leaves open, with `n` open before it.  A stray end closes
nothing. -/
def Call.unclosed (n : Nat) : List Call → Nat
  | [] => n
  | .opens _ :: cs => unclosed (n + 1) cs
  | .sets _ _ :: cs => unclosed n cs
  | .closes :: cs => unclosed (n - 1) cs

namespace Builder

/-- Whether an attribute goes into the innermost open element. -/
def takesAttributes (b : Builder) : Bool :=
  match b.stack with
  | [] => false
  | e :: _ => e.children.isEmpty

/-- The writer that was sent the calls that the builder was. -/
def written (b : Builder) : Writer where
  text := String.ofList (Element.charsOfAll 0 b.roots ++ Element.openCharsOfAll b.stack)
  stack := b.stack.map Element.name
  tagOpen := b.takesAttributes

/-- Before something is put into the innermost element, its tag ends. -/
theorem sealed_written (b : Builder) : b.written.sealed =
    String.ofList (Element.charsOfAll 0 b.roots ++ Element.begunCharsOfAll b.stack) := by
  obtain ⟨stack, roots⟩ := b
  match stack with
  | [] => rfl
  | ⟨name, attributes, c :: cs⟩ :: outer => rfl
  | ⟨name, attributes, []⟩ :: outer =>
    show String.ofList _ ++ ">\n" = _
    apply String.toList_injective
    simp [Element.openCharsOfAll, Element.begunCharsOfAll, Element.begunChars, Element.charsOfAll]

theorem written_push (b : Builder) (e : Element) : (b.push e).written =
    ⟨String.ofList (Element.charsOfAll 0 b.roots ++
      (Element.begunCharsOfAll b.stack ++ e.chars b.stack.length)), b.stack.map Element.name,
      false⟩ := by
  obtain ⟨stack, roots⟩ := b
  cases stack with
  | nil =>
    simp [push, written, takesAttributes, Element.charsOfAll_append, Element.charsOfAll_singleton,
      Element.openCharsOfAll, Element.begunCharsOfAll]
  | cons parent outer =>
    simp [push, written, takesAttributes, Element.openCharsOfAll_push]

/-! ## Calls -/

theorem opens_written (b : Builder) (name : String) :
    b.written.call (.opens name) = written <$> b.call (.opens name) := by
  have htext : b.written.sealed ++ Writer.indent b.written.stack.length ++ "<" ++ name =
      (written ⟨⟨name, [], []⟩ :: b.stack, b.roots⟩).text := by
    rw [sealed_written]
    apply String.toList_injective
    simp [written, Writer.indent, Element.openCharsOfAll, openingChars, indentChars]
  exact congrArg (fun text => pure (Writer.mk text (name :: b.written.stack) true)) htext

theorem sets_written (b : Builder) (key value : String) :
    b.written.call (.sets key value) = written <$> b.call (.sets key value) := by
  obtain ⟨stack, roots⟩ := b
  match stack with
  | [] => rfl
  | ⟨name, attributes, c :: cs⟩ :: outer => rfl
  | ⟨name, attributes, []⟩ :: outer =>
    have htext : (written ⟨⟨name, attributes, []⟩ :: outer, roots⟩).text ++ " " ++ key ++ "=\"" ++
        escaped value ++ "\"" =
        (written ⟨⟨name, attributes ++ [(key, value)], []⟩ :: outer, roots⟩).text := by
      apply String.toList_injective
      simp [written, Element.openCharsOfAll, openingChars, attributeChars]
    exact congrArg (fun text => pure (Writer.mk text (name :: outer.map Element.name) true)) htext

theorem closes_written (b : Builder) : b.written.call .closes = written <$> b.call .closes := by
  obtain ⟨stack, roots⟩ := b
  cases stack with
  | nil => rfl
  | cons e outer =>
    have hpush : Builder.call ⟨e :: outer, roots⟩ .closes = pure (push ⟨outer, roots⟩ e) := by
      cases outer <;> rfl
    rw [hpush, map_pure, written_push]
    obtain ⟨name, attributes, children⟩ := e
    cases children with
    | nil =>
      have htext : (written ⟨⟨name, attributes, []⟩ :: outer, roots⟩).text ++ "/>\n" =
          String.ofList (Element.charsOfAll 0 roots ++ (Element.begunCharsOfAll outer ++
            Element.chars outer.length ⟨name, attributes, []⟩)) := by
        apply String.toList_injective
        simp [written, Element.openCharsOfAll, Element.chars]
      exact congrArg (fun text => pure (Writer.mk text (outer.map Element.name) false)) htext
    | cons c cs =>
      have htext : (written ⟨⟨name, attributes, c :: cs⟩ :: outer, roots⟩).text ++
          Writer.indent (outer.map Element.name).length ++ "</" ++ name ++ ">\n" =
          String.ofList (Element.charsOfAll 0 roots ++ (Element.begunCharsOfAll outer ++
            Element.chars outer.length ⟨name, attributes, c :: cs⟩)) := by
        apply String.toList_injective
        simp [written, Element.openCharsOfAll, Element.begunCharsOfAll, Element.begunChars,
          Element.chars, closingChars, Writer.indent, indentChars]
      exact congrArg (fun text => pure (Writer.mk text (outer.map Element.name) false)) htext

/-- **A call does to what is written what it does to what is collected**, with the same events. -/
theorem call_written (b : Builder) (c : Call) : b.written.call c = written <$> b.call c := by
  cases c with
  | opens name => exact b.opens_written name
  | sets key value => exact b.sets_written key value
  | closes => exact b.closes_written

theorem run_written (b : Builder) (cs : List Call) : b.written.run cs = written <$> b.run cs := by
  induction cs generalizing b with
  | nil => rfl
  | cons c cs ih =>
    rw [run, Writer.run, call_written, map_bind, bind_map_left]
    exact congrArg (b.call c >>= ·) (funext ih)

theorem length_stack_call (b : Builder) (c : Call) :
    (b.call c).value.stack.length = Call.unclosed b.stack.length [c] := by
  obtain ⟨stack, roots⟩ := b
  match c, stack with
  | .opens name, _ => rfl
  | .sets key value, [] => rfl
  | .sets key value, ⟨name, attributes, []⟩ :: outer => rfl
  | .sets key value, ⟨name, attributes, c :: cs⟩ :: outer => rfl
  | .closes, [] => rfl
  | .closes, [e] => rfl
  | .closes, e :: parent :: outer => rfl

theorem length_stack_run (b : Builder) (cs : List Call) :
    (b.run cs).value.stack.length = Call.unclosed b.stack.length cs := by
  induction cs generalizing b with
  | nil => rfl
  | cons c cs ih =>
    rw [run, Logged.value_bind, ih, length_stack_call]
    cases c <;> rfl

end Builder

namespace Call

/-! ## Whole sequences -/

theorem render_eq_collect (cs : List Call) :
    render cs = (fun b => (Builder.written b).text) <$> Builder.empty.run cs := by
  have hempty : Writer.empty = Builder.empty.written := rfl
  unfold render
  rw [hempty, Builder.run_written, bind_map_left]
  rfl

/-- **What is written of elements is their text**, in silence. -/
theorem render_callsOfAll (es : List Element) :
    render (Element.callsOfAll es) = pure (String.ofList (Element.charsOfAll 0 es)) := by
  have hpush : es.foldl Builder.push Builder.empty = ⟨[], es⟩ := Builder.foldl_push_roots es []
  rw [render_eq_collect, Builder.run_callsOfAll, map_pure, hpush]
  simp [Builder.written, Element.openCharsOfAll]

/-- **Writing and collecting agree.**  At every call of a sequence both give the same warning or
none.  If the sequence closes what it opens, its text is the text of the elements it finishes, which
are written without a warning. -/
theorem writing_agrees_with_collecting (cs : List Call) :
    (∀ before c after, cs = before ++ c :: after →
      ((Writer.empty.run before).value.call c).events =
        ((Builder.empty.run before).value.call c).events) ∧
    (render cs).events = (collect cs).events ∧
    (unclosed 0 cs = 0 →
      render (Element.callsOfAll (collect cs).value) = pure (render cs).value) := by
  have hempty : Writer.empty = Builder.empty.written := rfl
  refine ⟨fun before c after _ => ?_, ?_, fun hclosed => ?_⟩
  · rw [hempty, Builder.run_written, Logged.value_map, Builder.call_written, Logged.events_map]
  · have hcollect : (collect cs).events = (Builder.empty.run cs).events := List.append_nil _
    rw [render_eq_collect, Logged.events_map, hcollect]
  · have hstack : (Builder.empty.run cs).value.stack = [] :=
      List.eq_nil_of_length_eq_zero ((Builder.empty.length_stack_run cs).trans hclosed)
    have hroots : (collect cs).value = (Builder.empty.run cs).value.roots := rfl
    rw [render_callsOfAll, render_eq_collect, Logged.value_map, Builder.written, hstack, hroots]
    simp [Element.openCharsOfAll]

/-- Two tags in each other, an attribute that comes too late, and an end too many at either side. -/
def straying : List Call :=
  [.closes, .opens "Dim", .sets "role" "a < b", .opens "LiteralDim", .closes, .sets "role" "Width",
    .closes, .closes]

theorem writing_agrees_straying :
    (render straying).events = [.strayClose, .strayAttribute "role", .strayClose] ∧
    (collect straying).events = [.strayClose, .strayAttribute "role", .strayClose] ∧
    unclosed 0 straying = 0 ∧
    render (Element.callsOfAll (collect straying).value) = pure (render straying).value :=
  ⟨rfl, rfl, rfl, (writing_agrees_with_collecting straying).2.2 rfl⟩

end Call

end SkinLayout
