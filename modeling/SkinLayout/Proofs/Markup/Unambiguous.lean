import SkinLayout.Proofs.Markup.Text
import SkinLayout.Text.Blank
/-!
# Text determines elements

A value is escaped so that it has no quote, and what escaping does can be undone; so every attribute
ends where it seems to.  A tag ends at the first blank, slash or bracket that is in no attribute,
and a slash there tells whether it has children.  The children end at the first tag that is indented
less.  So two lists of elements with the same text are the same (`render_inj`), whatever their
values are.
-/
namespace SkinLayout

/-! ## Values -/

/-- The text that was escaped. -/
def unescaped : List Char → List Char
  | '&' :: 'a' :: 'm' :: 'p' :: ';' :: s => '&' :: unescaped s
  | '&' :: 'l' :: 't' :: ';' :: s => '<' :: unescaped s
  | '&' :: 'g' :: 't' :: ';' :: s => '>' :: unescaped s
  | '&' :: 'q' :: 'u' :: 'o' :: 't' :: ';' :: s => '"' :: unescaped s
  | '&' :: 'a' :: 'p' :: 'o' :: 's' :: ';' :: s => '\'' :: unescaped s
  | '&' :: '#' :: '1' :: '0' :: ';' :: s => '\n' :: unescaped s
  | '&' :: '#' :: '1' :: '3' :: ';' :: s => '\r' :: unescaped s
  | '&' :: '#' :: '9' :: ';' :: s => '\t' :: unescaped s
  | c :: s => c :: unescaped s
  | [] => []

theorem unescaped_cons {c : Char} (h : c ≠ '&') (s : List Char) :
    unescaped (c :: s) = c :: unescaped s := by
  conv => lhs; unfold unescaped
  split <;> simp_all

/-- Escaping loses nothing. -/
theorem unescaped_flatMap (s : List Char) : unescaped (s.flatMap escapedChar) = s := by
  induction s with
  | nil => rfl
  | cons c s ih =>
    show unescaped (escapedChar c ++ s.flatMap escapedChar) = c :: s
    conv => rhs; rw [← ih]
    unfold escapedChar
    split
    case h_9 hamp _ _ _ _ _ _ _ => exact unescaped_cons hamp _
    all_goals rfl

theorem escaped_inj {value value' : String} : escaped value = escaped value' ↔ value = value' := by
  refine ⟨fun h => ?_, congrArg escaped⟩
  have hlist : value.toList.flatMap escapedChar = value'.toList.flatMap escapedChar :=
    String.ofList_injective h
  rw [← String.toList_inj, ← unescaped_flatMap value.toList, hlist, unescaped_flatMap]

/-- The characters that no escaped text has. -/
def delimiters : List Char := ['<', '>', '"', '\'', '\n', '\r', '\t']

theorem notMem_delimiters_of_mem_escapedChar (c : Char) :
    ∀ d ∈ escapedChar c, d ∉ delimiters := by
  unfold escapedChar
  split
  case h_9 _ hlt hgt hquot hapos hnewline hreturn htab =>
    simpa [delimiters] using ⟨hlt, hgt, hquot, hapos, hnewline, hreturn, htab⟩
  all_goals simp [delimiters]

theorem notMem_delimiters_of_mem_escaped (value : String) :
    ∀ c ∈ (escaped value).toList, c ∉ delimiters := by
  simp only [escaped, String.toList_ofList, List.mem_flatMap]
  rintro d ⟨c, -, hd⟩
  exact notMem_delimiters_of_mem_escapedChar c d hd

/-! ## Names -/

/-- What ends a tag: the slash of one without children, the bracket of another. -/
def tagEnds : List Char := ['/', '>']

/-- A name, maybe an empty one, that has no blank and no character of markup. -/
def PlainName (name : String) : Prop :=
  ∀ c ∈ name.toList, isBlank c = false ∧ c ∉ ['<', '>', '/', '=', '&', '"', '\'']

instance : DecidablePred PlainName := fun _ => List.decidableBAll _ _

namespace Element

mutual

/-- The names of an element, of its attributes and of what is in it. -/
def names : Element → List String
  | ⟨name, attributes, children⟩ => name :: (attributes.map Prod.fst ++ namesOfAll children)

def namesOfAll : List Element → List String
  | [] => []
  | e :: es => e.names ++ namesOfAll es

end

end Element

namespace PlainName

theorem notMem_equals {key : String} (h : PlainName key) : ∀ c ∈ key.toList, c ∉ ['='] := by
  intro c hmem hc
  obtain rfl := List.mem_singleton.1 hc
  exact (h _ hmem).2 (by decide)

theorem notMem_stops {name : String} (h : PlainName name) :
    ∀ c ∈ name.toList, c ∉ ' ' :: tagEnds := by
  intro c hmem hc
  obtain ⟨hblank, hmarkup⟩ := h c hmem
  obtain rfl | hc := List.mem_cons.1 hc
  · exact absurd hblank (by decide)
  · have hsubset : ∀ d ∈ tagEnds, d ∈ ['<', '>', '/', '=', '&', '"', '\''] := by simp [tagEnds]
    exact hmarkup (hsubset c hc)

end PlainName

/-! ## Tags -/

section
variable {r r' : List Char}

/-- What comes before the first character of a kind, and what comes after it. -/
theorem before_stop_inj {stops : List Char} : ∀ {x x' : List Char} {c c' : Char},
    (∀ d ∈ x, d ∉ stops) → (∀ d ∈ x', d ∉ stops) → c ∈ stops → c' ∈ stops →
      x ++ c :: r = x' ++ c' :: r' → x = x' ∧ c = c' ∧ r = r'
  | [], [], _, _, _, _, _, _, h => ⟨rfl, List.cons.inj h⟩
  | [], d :: _, _, _, _, hx', hc, _, h =>
    absurd ((List.cons.inj h).1 ▸ hc) (hx' d List.mem_cons_self)
  | d :: _, [], _, _, hx, _, _, hc', h =>
    absurd ((List.cons.inj h).1 ▸ hc') (hx d List.mem_cons_self)
  | _ :: _, _ :: _, _, _, hx, hx', hc, hc', h => by
    rw [List.forall_mem_cons] at hx hx'
    obtain ⟨rfl, htail⟩ := List.cons.inj h
    obtain ⟨rfl, hrest⟩ := before_stop_inj hx.2 hx'.2 hc hc' htail
    exact ⟨rfl, hrest⟩

theorem attributeChars_inj {a a' : String × String} (ha : PlainName a.1) (ha' : PlainName a'.1)
    (h : attributeChars a ++ r = attributeChars a' ++ r') : a = a' ∧ r = r' := by
  simp only [attributeChars, List.cons_append, List.append_assoc, List.nil_append,
    List.cons.injEq, true_and] at h
  have hquote (value : String) : ∀ c ∈ (escaped value).toList, c ∉ ['"'] := fun c hmem hc =>
    notMem_delimiters_of_mem_escaped value c hmem (List.mem_singleton.1 hc ▸ by decide)
  obtain ⟨hkey, -, h⟩ := before_stop_inj ha.notMem_equals ha'.notMem_equals
    List.mem_cons_self List.mem_cons_self h
  obtain ⟨hvalue, -, hr⟩ := before_stop_inj (hquote a.2) (hquote a'.2)
    List.mem_cons_self List.mem_cons_self (List.cons.inj h).2
  exact ⟨Prod.ext (String.toList_inj.1 hkey) (escaped_inj.1 (String.toList_inj.1 hvalue)), hr⟩

theorem blank_notMem_tagEnds : ' ' ∉ tagEnds := by decide

variable {c c' : Char}

theorem attributes_inj (hc : c ∈ tagEnds) (hc' : c' ∈ tagEnds) :
    ∀ {as as' : List (String × String)}, (∀ a ∈ as, PlainName a.1) → (∀ a ∈ as', PlainName a.1) →
      as.flatMap attributeChars ++ c :: r = as'.flatMap attributeChars ++ c' :: r' →
        as = as' ∧ c = c' ∧ r = r'
  | [], [], _, _, h => ⟨rfl, List.cons.inj h⟩
  | [], _ :: _, _, _, h => absurd ((List.cons.inj h).1 ▸ hc) blank_notMem_tagEnds
  | _ :: _, [], _, _, h => absurd ((List.cons.inj h).1 ▸ hc') blank_notMem_tagEnds
  | a :: as, a' :: as', has, has', h => by
    simp only [List.flatMap_cons, List.append_assoc] at h
    rw [List.forall_mem_cons] at has has'
    obtain ⟨rfl, hrest⟩ := attributeChars_inj has.1 has'.1 h
    obtain ⟨rfl, hend⟩ := attributes_inj hc hc' has.2 has'.2 hrest
    exact ⟨rfl, hend⟩

/-- Something that is in no name follows the name in a tag. -/
theorem attributes_stop (hc : c ∈ tagEnds) (as : List (String × String)) (r : List Char) :
    ∃ d ∈ ' ' :: tagEnds, ∃ t, as.flatMap attributeChars ++ c :: r = d :: t := by
  cases as with
  | nil => exact ⟨c, List.mem_cons_of_mem _ hc, r, rfl⟩
  | cons a as => exact ⟨' ', List.mem_cons_self, _, rfl⟩

theorem openingChars_inj (hc : c ∈ tagEnds) (hc' : c' ∈ tagEnds) {depth : Nat}
    {name name' : String} {as as' : List (String × String)} (hname : PlainName name)
    (hname' : PlainName name') (has : ∀ a ∈ as, PlainName a.1) (has' : ∀ a ∈ as', PlainName a.1)
    (h : openingChars depth name as ++ c :: r = openingChars depth name' as' ++ c' :: r') :
    name = name' ∧ as = as' ∧ c = c' ∧ r = r' := by
  simp only [openingChars, List.append_assoc, List.cons_append, List.append_cancel_left_eq,
    List.cons.injEq, true_and] at h
  obtain ⟨d, hd, t, ht⟩ := attributes_stop hc as r
  obtain ⟨d', hd', t', ht'⟩ := attributes_stop hc' as' r'
  rw [ht, ht'] at h
  obtain ⟨hsame, rfl, rfl⟩ := before_stop_inj hname.notMem_stops hname'.notMem_stops hd hd' h
  exact ⟨String.toList_inj.1 hsame, attributes_inj hc hc' has has' (ht.trans ht'.symm)⟩

end

/-! ## Elements -/

/-- Whether a tag, opening or closing, comes next at some depth. -/
def TagAt (depth : Nat) (t : List Char) : Prop := ∃ s, t = indentChars depth ++ '<' :: s

theorem not_tagAt_nil (depth : Nat) : ¬ TagAt depth [] := by
  rintro ⟨s, hs⟩
  simp at hs

/-- The end of an element is indented less than what is in it. -/
theorem not_tagAt_closingChars (depth : Nat) (name : String) (r : List Char) :
    ¬ TagAt (depth + 1) (closingChars depth name ++ r) := by
  rintro ⟨s, hs⟩
  have hindent : indentChars (depth + 1) = indentChars depth ++ [' ', ' '] :=
    List.replicate_append_replicate.symm
  rw [hindent] at hs
  simp [closingChars] at hs

namespace Element

theorem chars_childless (depth : Nat) (name : String) (attributes : List (String × String))
    (r : List Char) : chars depth ⟨name, attributes, []⟩ ++ r =
      openingChars depth name attributes ++ '/' :: '>' :: '\n' :: r :=
  List.append_assoc _ _ _

theorem chars_parent (depth : Nat) (name : String) (attributes : List (String × String))
    (child : Element) (children : List Element) (r : List Char) :
    chars depth ⟨name, attributes, child :: children⟩ ++ r =
      openingChars depth name attributes ++ '>' :: '\n' ::
        (charsOfAll (depth + 1) (child :: children) ++ (closingChars depth name ++ r)) := by
  rw [chars, if_neg (by simp), List.append_assoc, List.cons_append, List.cons_append,
    List.append_assoc]

theorem tagAt_chars (depth : Nat) (e : Element) (r : List Char) :
    TagAt depth (e.chars depth ++ r) := by
  obtain ⟨name, attributes, children⟩ := e
  rw [chars, openingChars, List.append_assoc, List.append_assoc, List.cons_append]
  exact ⟨_, rfl⟩

mutual

theorem chars_inj : ∀ {e e' : Element} {depth : Nat} {r r' : List Char},
    (∀ name ∈ e.names, PlainName name) → (∀ name ∈ e'.names, PlainName name) →
      e.chars depth ++ r = e'.chars depth ++ r' → e = e' ∧ r = r'
  | ⟨name, attributes, children⟩, ⟨name', attributes', children'⟩, depth, r, r', he, he', h => by
    rw [names, List.forall_mem_cons, List.forall_mem_append, List.forall_mem_map] at he he'
    obtain ⟨hname, hattributes, hchildren⟩ := he
    obtain ⟨hname', hattributes', hchildren'⟩ := he'
    have opening {c c' : Char} {s s' : List Char} (hc : c ∈ tagEnds) (hc' : c' ∈ tagEnds)
        (htag : openingChars depth name attributes ++ c :: s =
          openingChars depth name' attributes' ++ c' :: s') :
        name = name' ∧ attributes = attributes' ∧ c = c' ∧ s = s' :=
      openingChars_inj hc hc' hname hname' hattributes hattributes' htag
    -- after the attributes a slash stands without children, a bracket with some
    match children, children' with
    | [], [] =>
      rw [chars_childless, chars_childless] at h
      obtain ⟨rfl, rfl, -, hend⟩ := opening (by decide) (by decide) h
      exact ⟨rfl, (List.cons.inj (List.cons.inj hend).2).2⟩
    | [], child' :: children' =>
      rw [chars_childless, chars_parent] at h
      exact absurd (opening (by decide) (by decide) h).2.2.1 (by decide)
    | child :: children, [] =>
      rw [chars_parent, chars_childless] at h
      exact absurd (opening (by decide) (by decide) h).2.2.1 (by decide)
    | child :: children, child' :: children' =>
      rw [chars_parent, chars_parent] at h
      obtain ⟨rfl, rfl, -, hbody⟩ := opening (by decide) (by decide) h
      obtain ⟨hsame, hend⟩ := charsOfAll_inj hchildren hchildren'
        (not_tagAt_closingChars depth name r) (not_tagAt_closingChars depth name r')
        (List.cons.inj hbody).2
      exact ⟨by rw [hsame], List.append_cancel_left hend⟩

/-- Lists of elements of one depth, each before something that is no tag of this depth. -/
theorem charsOfAll_inj : ∀ {es es' : List Element} {depth : Nat} {r r' : List Char},
    (∀ name ∈ namesOfAll es, PlainName name) → (∀ name ∈ namesOfAll es', PlainName name) →
      ¬ TagAt depth r → ¬ TagAt depth r' →
        charsOfAll depth es ++ r = charsOfAll depth es' ++ r' → es = es' ∧ r = r'
  | [], [], _, _, _, _, _, _, _, h => ⟨rfl, h⟩
  | [], e' :: es', depth, r, r', _, _, hr, _, h => by
    refine absurd ?_ hr
    rw [charsOfAll, List.nil_append, charsOfAll, List.append_assoc] at h
    exact h ▸ e'.tagAt_chars depth _
  | e :: es, [], depth, r, r', _, _, _, hr', h => by
    refine absurd ?_ hr'
    rw [charsOfAll, charsOfAll, List.nil_append, List.append_assoc] at h
    exact h ▸ e.tagAt_chars depth _
  | e :: es, e' :: es', depth, r, r', hes, hes', hr, hr', h => by
    rw [namesOfAll, List.forall_mem_append] at hes hes'
    rw [charsOfAll, charsOfAll, List.append_assoc, List.append_assoc] at h
    obtain ⟨rfl, hrest⟩ := chars_inj hes.1 hes'.1 h
    obtain ⟨rfl, hend⟩ := charsOfAll_inj hes.2 hes'.2 hr hr' hrest
    exact ⟨rfl, hend⟩

end

end Element

/-- **Text determines elements**, whatever the values of their attributes are: no value has a quote,
a bracket or a line break where it is written. -/
theorem render_inj {es es' : List Element} (hes : ∀ name ∈ Element.namesOfAll es, PlainName name)
    (hes' : ∀ name ∈ Element.namesOfAll es', PlainName name) :
    ((Call.render (Element.callsOfAll es)).value = (Call.render (Element.callsOfAll es')).value →
      es = es') ∧
    ∀ value, ∀ c ∈ (escaped value).toList, c ∉ delimiters := by
  refine ⟨fun h => ?_, notMem_delimiters_of_mem_escaped⟩
  rw [Call.render_callsOfAll, Call.render_callsOfAll] at h
  have hchars : Element.charsOfAll 0 es = Element.charsOfAll 0 es' := String.ofList_injective h
  have hend : Element.charsOfAll 0 es ++ [] = Element.charsOfAll 0 es' ++ [] := by rw [hchars]
  exact (Element.charsOfAll_inj hes hes' (not_tagAt_nil 0) (not_tagAt_nil 0) hend).1

/-- A tag whose attribute looks like the end of the tag and the start of another. -/
def imitation : List Element := [⟨"FontDim", [("string", "\"/>\n<FontDim string=\"")], []⟩]

/-- The two tags that it looks like. -/
def imitated : List Element :=
  [⟨"FontDim", [("string", "")], []⟩, ⟨"FontDim", [("string", "")], []⟩]

theorem render_imitation_ne : (∀ name ∈ Element.namesOfAll imitation, PlainName name) ∧
    (∀ name ∈ Element.namesOfAll imitated, PlainName name) ∧
    (Call.render (Element.callsOfAll imitation)).value ≠
      (Call.render (Element.callsOfAll imitated)).value := by
  have himitation : ∀ name ∈ Element.namesOfAll imitation, PlainName name := by decide
  have himitated : ∀ name ∈ Element.namesOfAll imitated, PlainName name := by decide
  refine ⟨himitation, himitated, fun h => ?_⟩
  have hsame : imitation = imitated := (render_inj himitation himitated).1 h
  exact absurd hsame (by decide)

end SkinLayout
