import Mathlib.Data.List.DropRight
import Mathlib.Data.List.TakeDrop
import Mathlib.Data.List.TakeWhile
import SkinLayout.Text.Blank
import SkinLayout.Text.Split
/-!
# Blanks around tokens

A text is often written as tokens without blanks in them, and may be spaced out: blanks stand before,
between and after the tokens (`Spaced`).  Trimming takes off the outer blanks and nothing else
(`Solid.trim_between`, `exists_trim`), and a cut at a character falls where it first stands
(`splitAt_append_cons`).
-/
namespace SkinLayout

/-! ## Blanks -/

def AllBlank (s : List Char) : Prop := ∀ c ∈ s, isBlank c = true

instance : DecidablePred AllBlank := fun _ => List.decidableBAll _ _

/-- Characters that trimming stops at, at least one of them. -/
structure Solid (s : List Char) : Prop where
  ne_nil : s ≠ []
  not_blank : ∀ c ∈ s, isBlank c = false

variable {g g' s t t' : List Char} {c : Char}

theorem solid_singleton (h : isBlank c = false) : Solid [c] :=
  ⟨List.cons_ne_nil _ _, fun _ hd => List.mem_singleton.1 hd ▸ h⟩

theorem AllBlank.nil : AllBlank [] := fun _ hc => by cases hc

theorem AllBlank.append (h : AllBlank g) (h' : AllBlank g') : AllBlank (g ++ g') := fun c hc =>
  (List.mem_append.1 hc).elim (h c) (h' c)

theorem AllBlank.reverse (h : AllBlank g) : AllBlank g.reverse := fun c hc =>
  h c (List.mem_reverse.1 hc)

theorem AllBlank.not_mem (h : AllBlank g) (hc : isBlank c = false) : c ∉ g := fun hmem =>
  Bool.false_ne_true (hc.symm.trans (h c hmem))

theorem Solid.reverse (h : Solid t) : Solid t.reverse :=
  ⟨fun hnil => h.ne_nil (List.reverse_eq_nil_iff.1 hnil),
    fun c hc => h.not_blank c (List.mem_reverse.1 hc)⟩

/-! ## Trimming -/

theorem trimLeft_blank_append (h : AllBlank g) (s : List Char) : trimLeft (g ++ s) = trimLeft s :=
  List.dropWhile_append_of_pos h

theorem Solid.trimLeft_append (h : Solid t) (s : List Char) : trimLeft (t ++ s) = t ++ s := by
  obtain ⟨c, t, rfl⟩ := List.exists_cons_of_ne_nil h.ne_nil
  unfold trimLeft
  rw [List.cons_append, List.dropWhile_cons_of_neg]
  rw [h.not_blank c List.mem_cons_self]
  exact Bool.false_ne_true

theorem trimRight_append_blank (h : AllBlank g) (s : List Char) :
    trimRight (s ++ g) = trimRight s := by
  unfold trimRight
  rw [List.reverse_append]
  exact congrArg List.reverse (trimLeft_blank_append h.reverse s.reverse)

theorem Solid.trimRight_append (h : Solid t) (s : List Char) : trimRight (s ++ t) = s ++ t := by
  have hleft := h.reverse.trimLeft_append s.reverse
  rw [← List.reverse_append] at hleft
  unfold trimRight
  rw [show (s ++ t).reverse.dropWhile isBlank = (s ++ t).reverse from hleft, List.reverse_reverse]

theorem Solid.trim_between (h : Solid t) (hg : AllBlank g) (hg' : AllBlank g') :
    trim (g ++ (t ++ g')) = t := by
  have hright := h.trimRight_append []
  rw [List.nil_append] at hright
  rw [trim, trimLeft_blank_append hg, h.trimLeft_append, trimRight_append_blank hg', hright]

/-- What stands between the outermost tokens keeps its blanks. -/
theorem Solid.trim_enclosed (h : Solid t) (h' : Solid t') (hg : AllBlank g) (hg' : AllBlank g')
    (s : List Char) : trim (g ++ (t ++ (s ++ (t' ++ g')))) = t ++ (s ++ t') := by
  have hassoc : t ++ (s ++ (t' ++ g')) = t ++ s ++ t' ++ g' := by simp only [List.append_assoc]
  rw [trim, trimLeft_blank_append hg, h.trimLeft_append, hassoc, trimRight_append_blank hg',
    h'.trimRight_append, List.append_assoc]

theorem trimLeft_trimLeft (s : List Char) : trimLeft (trimLeft s) = trimLeft s :=
  List.dropWhile_idempotent isBlank s

theorem trimLeft_cons (hc : isBlank c = false) (s : List Char) : trimLeft (c :: s) = c :: s := by
  unfold trimLeft
  rw [List.dropWhile_cons_of_neg (by simp [hc])]

theorem isBlank_head (h : trimLeft (c :: s) = c :: s) : isBlank c = false := by
  have hstop := List.dropWhile_eq_self_iff.1 h (Nat.zero_lt_succ _)
  exact Bool.eq_false_iff.2 hstop

/-- Trimming does not go past a character that is no blank. -/
theorem trimLeft_append_cons (hc : isBlank c = false) (s t : List Char) :
    trimLeft (s ++ c :: t) = trimLeft s ++ c :: t := by
  have hrest := trimLeft_cons hc t
  unfold trimLeft at hrest ⊢
  rw [List.dropWhile_append, hrest]
  split
  · rename_i hempty
    rw [List.isEmpty_iff.1 hempty, List.nil_append]
  · rfl

theorem trimRight_append_cons (hc : isBlank c = false) (s t : List Char) :
    trimRight (s ++ c :: t) = s ++ c :: trimRight t := by
  have hleft := trimLeft_append_cons hc t.reverse s.reverse
  have hreverse : (s ++ c :: t).reverse = t.reverse ++ c :: s.reverse := by simp
  unfold trimRight
  rw [hreverse, show (t.reverse ++ c :: s.reverse).dropWhile isBlank = _ from hleft]
  simp [trimLeft]

theorem trimRight_append_of_mem (hc : isBlank c = false) (h : c ∈ t) (s : List Char) :
    trimRight (s ++ t) = s ++ trimRight t := by
  obtain ⟨x, y, rfl⟩ := List.append_of_mem h
  rw [← List.append_assoc, trimRight_append_cons hc, trimRight_append_cons hc, List.append_assoc]

theorem trimRight_of_blank (h : AllBlank g) : trimRight g = [] := by
  have hnil := trimRight_append_blank h []
  rwa [List.nil_append] at hnil

/-- A text up to a character that is no blank has nothing to trim, if nothing is in front. -/
theorem trim_of_cut (hc : isBlank c = false) (h : trimLeft (s ++ c :: t) = s ++ c :: t) :
    trim (s ++ [c]) = s ++ [c] := by
  rw [trimLeft_append_cons hc] at h
  have hs : trimLeft s = s := List.append_cancel_right h
  rw [trim, trimLeft_append_cons hc, hs, (solid_singleton hc).trimRight_append]

/-- What trimming takes off is blank. -/
theorem exists_trimLeft (s : List Char) : ∃ g, AllBlank g ∧ s = g ++ trimLeft s :=
  ⟨s.takeWhile isBlank, fun _ hc => List.mem_takeWhile_imp hc,
    List.takeWhile_append_dropWhile.symm⟩

theorem exists_trimRight (s : List Char) : ∃ g, AllBlank g ∧ s = trimRight s ++ g := by
  obtain ⟨g, hg, hs⟩ := exists_trimLeft s.reverse
  refine ⟨g.reverse, hg.reverse, ?_⟩
  have hs' := congrArg List.reverse hs
  rwa [List.reverse_reverse, List.reverse_append] at hs'

theorem exists_trim (s : List Char) : ∃ g g', AllBlank g ∧ AllBlank g' ∧ s = g ++ (trim s ++ g') := by
  obtain ⟨g, hg, hs⟩ := exists_trimLeft s
  obtain ⟨g', hg', hs'⟩ := exists_trimRight (trimLeft s)
  exact ⟨g, g', hg, hg', hs.trans (congrArg (g ++ ·) hs')⟩

theorem mem_trim_of_mem (hc : isBlank c = false) (h : c ∈ s) : c ∈ trim s := by
  obtain ⟨g, g', hg, hg', hs⟩ := exists_trim s
  rw [hs, List.mem_append, List.mem_append] at h
  rcases h with h | h | h
  · exact absurd h (hg.not_mem hc)
  · exact h
  · exact absurd h (hg'.not_mem hc)

/-- No blank is left in front. -/
theorem trimLeft_trim (s : List Char) : trimLeft (trim s) = trim s := by
  have hleft := trimLeft_trimLeft s
  obtain ⟨g, -, hs⟩ := exists_trimRight (trimLeft s)
  unfold trim
  cases hright : trimRight (trimLeft s) with
  | nil => rfl
  | cons c t =>
    rw [hs, hright, List.cons_append] at hleft
    exact trimLeft_cons (isBlank_head hleft) t

/-! ## Cuts -/

theorem splitAt_of_not_mem {sep : Char} : ∀ {s : List Char}, sep ∉ s → splitAt sep s = [s]
  | [], _ => rfl
  | c :: s, h => by
    rw [List.mem_cons, not_or] at h
    unfold splitAt
    rw [if_neg (Ne.symm h.1), splitAt_of_not_mem h.2]

/-- A text is cut at any of its cuts. -/
theorem splitAt_append (sep : Char) (t : List Char) :
    ∀ s : List Char, splitAt sep (s ++ sep :: t) = splitAt sep s ++ splitAt sep t
  | [] => by
    show splitAt sep (sep :: t) = [] :: splitAt sep t
    rw [splitAt, if_pos rfl]
  | c :: s => by
    have ih := splitAt_append sep t s
    by_cases hc : c = sep
    · rw [List.cons_append, splitAt, if_pos hc, ih, splitAt, if_pos hc, List.cons_append]
    · obtain ⟨piece, pieces, hpieces⟩ := List.exists_cons_of_ne_nil (splitAt_ne_nil sep s)
      rw [List.cons_append, splitAt, if_neg hc, ih, hpieces, splitAt, if_neg hc, hpieces]
      rfl

theorem splitAt_append_cons {sep : Char} (t : List Char) {s : List Char} (h : sep ∉ s) :
    splitAt sep (s ++ sep :: t) = s :: splitAt sep t := by
  rw [splitAt_append, splitAt_of_not_mem h, List.singleton_append]

/-- There is one piece more than there are cuts. -/
theorem length_splitAt (sep : Char) : ∀ s : List Char, (splitAt sep s).length = s.count sep + 1
  | [] => rfl
  | c :: s => by
    have ih := length_splitAt sep s
    by_cases hc : c = sep
    · rw [splitAt, if_pos hc, hc, List.length_cons, ih, List.count_cons_self]
    · obtain ⟨piece, pieces, hpieces⟩ := List.exists_cons_of_ne_nil (splitAt_ne_nil sep s)
      rw [hpieces] at ih
      rw [splitAt, if_neg hc, hpieces, List.count_cons_of_ne (by simpa using hc), ← ih]
      rfl

/-! ## Spaced tokens -/

/-- A text of these tokens, with any blanks before, between and after them. -/
inductive Spaced : List (List Char) → List Char → Prop
  | nil {gap : List Char} (hgap : AllBlank gap) : Spaced [] gap
  | cons {gap token s : List Char} {tokens : List (List Char)} (hgap : AllBlank gap)
    (h : Spaced tokens s) : Spaced (token :: tokens) (gap ++ (token ++ s))

namespace Spaced

variable {tokens tokens' : List (List Char)}

theorem tight (t : List Char) (h : Spaced tokens s) : Spaced (t :: tokens) (t ++ s) := .cons .nil h

/-- The text without any blanks. -/
theorem flatten : ∀ tokens : List (List Char), Spaced tokens tokens.flatten
  | [] => .nil .nil
  | t :: tokens => (flatten tokens).tight t

theorem blank_append (hg : AllBlank g) (h : Spaced tokens s) : Spaced tokens (g ++ s) := by
  cases h with
  | nil hgap => exact .nil (hg.append hgap)
  | cons hgap h =>
    rw [← List.append_assoc]
    exact .cons (hg.append hgap) h

theorem append (h : Spaced tokens s) (ht : Spaced tokens' t) :
    Spaced (tokens ++ tokens') (s ++ t) := by
  induction h with
  | nil hgap => exact ht.blank_append hgap
  | cons hgap _ ih =>
    rw [List.append_assoc, List.append_assoc]
    exact .cons hgap ih

theorem append_blank (h : Spaced tokens s) (hg : AllBlank g) : Spaced tokens (s ++ g) := by
  have := h.append (.nil hg)
  rwa [List.append_nil] at this

/-- A spaced text falls into texts of its tokens. -/
theorem exists_append (h : Spaced (tokens ++ tokens') s) :
    ∃ x y, s = x ++ y ∧ Spaced tokens x ∧ Spaced tokens' y := by
  induction tokens generalizing s with
  | nil => exact ⟨[], s, rfl, .nil .nil, h⟩
  | cons token tokens ih =>
    cases h with
    | cons hgap h =>
      obtain ⟨x, y, rfl, hx, hy⟩ := ih h
      exact ⟨_, y, by simp only [List.append_assoc], .cons hgap hx, hy⟩

theorem exists_singleton (h : Spaced [t] s) : ∃ g g', s = g ++ (t ++ g') ∧ AllBlank g ∧ AllBlank g' := by
  cases h with
  | cons hgap h =>
    cases h with
    | nil hgap' => exact ⟨_, _, rfl, hgap, hgap'⟩

end Spaced

end SkinLayout
