import SkinLayout.Proofs.Number.RoundTrip
import SkinLayout.Proofs.Unified.Grammar
/-!
# Unified values read back

A unified value is written as braces, commas and numbers, and however these are spaced out the value
is read again (`reads_back_spaced`): the text is one of the grammar (`Unified.isLength_of_spaced`,
`Unified.exists_isRow`), where the blanks behind a length go to the separator that follows it.
-/
namespace SkinLayout

/-! ## Tokens -/

/-- Braces around parts and commas between them, each part a list of tokens. -/
def bracedTokens (parts : List (List (List Char))) : List (List Char) :=
  ['{'] :: (List.intercalate [[',']] parts ++ [['}']])

/-- Without blanks the tokens are the text. -/
theorem flatten_bracedTokens (parts : List (List (List Char))) :
    (bracedTokens parts).flatten = braced (parts.map List.flatten) := by
  have hinside : (List.intercalate [[',']] parts).flatten =
      List.intercalate [','] (parts.map List.flatten) := by
    induction parts with
    | nil => rfl
    | cons part parts ih =>
      cases parts with
      | nil => simp [List.intercalate]
      | cons next parts =>
        simp only [List.map_cons, List.intercalate_cons_cons] at ih ⊢
        rw [List.flatten_append, List.flatten_append, ih]
        rfl
  unfold bracedTokens braced
  rw [List.flatten_cons, List.flatten_append, hinside]
  rfl

def Unified.tokens (u : Unified) : List (List Char) :=
  bracedTokens [[Single.toChars u.scale], [Single.toChars u.offset]]

theorem Unified.flatten_tokens (u : Unified) : u.tokens.flatten = u.toChars := by
  unfold tokens toChars
  rw [flatten_bracedTokens]
  simp only [List.map_cons, List.map_nil, List.flatten_singleton]

/-- The tokens of an aggregate. -/
def aggregateTokens (us : List Unified) : List (List Char) := bracedTokens (us.map Unified.tokens)

theorem flatten_aggregateTokens (us : List Unified) :
    (aggregateTokens us).flatten = braced (us.map Unified.toChars) := by
  unfold aggregateTokens
  rw [flatten_bracedTokens, List.map_map]
  exact congrArg braced (List.map_congr_left fun u _ => u.flatten_tokens)

def Point.tokens (p : Point Unified) : List (List Char) := aggregateTokens [p.x, p.y]

def Size.tokens (s : Size Unified) : List (List Char) := aggregateTokens [s.width, s.height]

def UnifiedRect.tokens (r : UnifiedRect) : List (List Char) :=
  aggregateTokens [r.min.x, r.min.y, r.max.x, r.max.y]

namespace Unified

variable {s : List Char} {u : Unified} {us : List Unified}

/-! ## One length -/

/-- Braces stand around what they enclose, and blanks around the braces. -/
theorem exists_braces {tokens : List (List Char)} (h : Spaced (['{'] :: (tokens ++ [['}']])) s) :
    ∃ g inner g', s = g ++ ('{' :: (inner ++ ['}']) ++ g') ∧ AllBlank g ∧ AllBlank g' ∧
      Spaced tokens inner := by
  cases h with
  | @cons g _ _ _ hg h =>
    obtain ⟨x, y, rfl, hx, hy⟩ := h.exists_append
    obtain ⟨g₁, g₂, rfl, hg₁, hg₂⟩ := hy.exists_singleton
    exact ⟨g, x ++ g₁, g₂, by simp, hg, hg₂, hx.append_blank hg₁⟩

theorem exists_trim_braces {tokens : List (List Char)}
    (h : Spaced (['{'] :: (tokens ++ [['}']])) s) :
    ∃ inner, trim s = '{' :: (inner ++ ['}']) ∧ Spaced tokens inner := by
  obtain ⟨g, inner, g', rfl, hg, hg', hinner⟩ := exists_braces h
  refine ⟨inner, ?_, hinner⟩
  have htrim : trim (g ++ (['{'] ++ (inner ++ (['}'] ++ g')))) = ['{'] ++ (inner ++ ['}']) :=
    (solid_singleton rfl).trim_enclosed (solid_singleton rfl) hg hg' inner
  simpa using htrim

theorem isNumber_of_spaced {x : Float32} (h : Spaced [Single.toChars x] s) : IsNumber x s := by
  obtain ⟨g, g', rfl, hg, hg'⟩ := h.exists_singleton
  unfold IsNumber
  rw [(Single.solid_toChars x).trim_between hg hg', Single.ofChars?_toChars]

/-- Between the braces there are the two numbers, the blanks before the comma with the first. -/
theorem isLength_of_spaced
    (h : Spaced [Single.toChars u.scale, [','], Single.toChars u.offset] s) :
    IsLength u ('{' :: (s ++ ['}'])) := by
  have hsplit : Spaced ([Single.toChars u.scale] ++ [[','], Single.toChars u.offset]) s := h
  obtain ⟨a, z, rfl, ha, hz⟩ := hsplit.exists_append
  cases hz with
  | @cons g _ b _ hg hb =>
    exact ⟨a ++ g, b, isNumber_of_spaced (ha.append_blank hg), isNumber_of_spaced hb, by simp⟩

theorem ofChars_spaced (h : Spaced u.tokens s) : ofChars s = .ok u := by
  obtain ⟨inner, htrim, hinner⟩ := exists_trim_braces h
  exact IsLength.ofChars_eq (htrim ▸ isLength_of_spaced hinner)

/-! ## Aggregates -/

/-- The inside of an aggregate, all lengths but the first behind a comma. -/
theorem intercalate_tokens (u : Unified) (us : List Unified) :
    List.intercalate [[',']] ((u :: us).map tokens) =
      u.tokens ++ us.flatMap fun v => [','] :: v.tokens := by
  induction us generalizing u with
  | nil => simp
  | cons v us ih =>
    rw [List.map_cons, List.map_cons, List.intercalate_cons_cons, ← List.map_cons, ih,
      List.flatMap_cons, List.append_assoc]
    rfl

/-- A length in front of a row; the blanks behind it are part of the separator. -/
theorem exists_isRow_cons {tokens : List (List Char)} (h : Spaced (u.tokens ++ tokens) s)
    (hrest : ∀ z, Spaced tokens z → ∃ gap row, z = gap ++ row ∧ IsGap gap ∧ IsRow us row) :
    ∃ lead row, s = lead ++ row ∧ AllBlank lead ∧ IsRow (u :: us) row := by
  obtain ⟨y, z, rfl, hy, hz⟩ := h.exists_append
  obtain ⟨g, inner, g', rfl, hg, hg', hinner⟩ := exists_braces hy
  obtain ⟨gap, row, hsplit, hgap, hrow⟩ := hrest (g' ++ z) (hz.blank_append hg')
  refine ⟨g, _, ?_, hg, .cons (isLength_of_spaced hinner) hgap hrow⟩
  rw [← hsplit, List.append_assoc, List.append_assoc]

/-- Each further length stands behind a comma. -/
theorem exists_isRow (h : Spaced (us.flatMap fun u => [','] :: u.tokens) s) :
    ∃ gap row, s = gap ++ row ∧ IsGap gap ∧ IsRow us row := by
  induction us generalizing s with
  | nil =>
    cases h with
    | nil hgap => exact ⟨s, [], by simp, ⟨s, [], hgap, .nil, .inl (by simp)⟩, .nil⟩
  | cons u us ih =>
    rw [List.flatMap_cons, List.cons_append] at h
    cases h with
    | @cons g _ _ _ hg hz =>
      obtain ⟨lead, row, rfl, hlead, hrow⟩ := exists_isRow_cons hz fun _ => ih
      exact ⟨g ++ ',' :: lead, row, by simp, ⟨g, lead, hg, hlead, .inr rfl⟩, hrow⟩

theorem groups_spaced (h : Spaced (aggregateTokens us) s) : groups s = .ok us := by
  obtain ⟨inner, htrim, hinner⟩ := exists_trim_braces h
  apply IsAggregate.groups_eq
  rw [htrim]
  cases us with
  | nil =>
    cases hinner with
    | nil hgap => exact ⟨inner, [], hgap, .nil, by simp⟩
  | cons u us =>
    rw [intercalate_tokens] at hinner
    obtain ⟨lead, row, rfl, hlead, hrow⟩ := exists_isRow_cons hinner fun _ => exists_isRow
    exact ⟨lead, row, hlead, hrow, by simp⟩

theorem ofChars_toChars (u : Unified) : ofChars u.toChars = .ok u :=
  u.flatten_tokens ▸ ofChars_spaced (.flatten u.tokens)

end Unified

section
variable {s : List Char}

theorem Point.ofChars_spaced {p : Point Unified} (h : Spaced p.tokens s) :
    Point.ofChars s = .ok p := by
  unfold Point.ofChars
  rw [Unified.groups_spaced h]
  rfl

theorem Size.ofChars_spaced {z : Size Unified} (h : Spaced z.tokens s) :
    Size.ofChars s = .ok z := by
  unfold Size.ofChars
  rw [Unified.groups_spaced h]
  rfl

theorem UnifiedRect.ofChars_spaced {r : UnifiedRect} (h : Spaced r.tokens s) :
    UnifiedRect.ofChars s = .ok r := by
  unfold UnifiedRect.ofChars
  rw [Unified.groups_spaced h]
  rfl

theorem UnifiedRect.flatten_tokens (r : UnifiedRect) : r.tokens.flatten = r.toChars :=
  flatten_aggregateTokens _

theorem UnifiedRect.ofChars_toChars (r : UnifiedRect) : UnifiedRect.ofChars r.toChars = .ok r :=
  r.flatten_tokens ▸ ofChars_spaced (.flatten r.tokens)

end

/-- **A unified value is read from its text with any blanks around its braces, commas and numbers**,
the same in every bit; an infinity, a not-a-number or a negative zero in it makes no difference. -/
theorem reads_back_spaced :
    (∀ u : Unified, u.tokens.flatten = u.toChars ∧
      ∀ s, Spaced u.tokens s → Unified.ofChars s = .ok u) ∧
    (∀ p : Point Unified, p.tokens.flatten = p.toChars ∧
      ∀ s, Spaced p.tokens s → Point.ofChars s = .ok p) ∧
    (∀ z : Size Unified, z.tokens.flatten = z.toChars ∧
      ∀ s, Spaced z.tokens s → Size.ofChars s = .ok z) ∧
    ∀ r : UnifiedRect, r.tokens.flatten = r.toChars ∧
      ∀ s, Spaced r.tokens s → UnifiedRect.ofChars s = .ok r :=
  ⟨fun u => ⟨u.flatten_tokens, fun _ => Unified.ofChars_spaced⟩,
    fun _ => ⟨flatten_aggregateTokens _, fun _ => Point.ofChars_spaced⟩,
    fun _ => ⟨flatten_aggregateTokens _, fun _ => Size.ofChars_spaced⟩,
    fun r => ⟨r.flatten_tokens, fun _ => UnifiedRect.ofChars_spaced⟩⟩

/-- A point with a not-a-number and a negative zero. -/
def oddPoint : Point Unified := ⟨⟨0.5, -4⟩, ⟨Single.nan, -0⟩⟩

/-- Its text, with blanks of three kinds. -/
def oddText : List Char :=
  [' ', '{', '\t', '{', ' ', '0', '.', '5', ' ', ',', '-', '4', '}', ',', ' ', '{', ' ', 'N', 'a', 'N',
    '\n', ',', '-', '0', ' ', '}', ' ', '}']

theorem reads_back_oddPoint :
    Spaced oddPoint.tokens oddText ∧ Point.ofChars oddText = .ok oddPoint := by
  have hspace : AllBlank [' '] := by decide
  have htab : AllBlank ['\t'] := by decide
  have hline : AllBlank ['\n'] := by decide
  have htokens : oddPoint.tokens = [['{'], ['{'], ['0', '.', '5'], [','], ['-', '4'], ['}'], [','],
      ['{'], ['N', 'a', 'N'], [','], ['-', '0'], ['}'], ['}']] := by decide +kernel
  have htext : Spaced oddPoint.tokens oddText := by
    rw [htokens]
    exact .cons hspace <| .cons htab <| .cons hspace <| .cons hspace <| .tight _ <| .tight _ <|
      .tight _ <| .cons hspace <| .cons hspace <| .cons hline <| .tight _ <| .cons hspace <|
      .cons hspace <| .nil .nil
  exact ⟨htext, (reads_back_spaced.2.1 oddPoint).2 _ htext⟩

end SkinLayout
