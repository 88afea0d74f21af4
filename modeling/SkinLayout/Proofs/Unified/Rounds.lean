import SkinLayout.Outcome
import SkinLayout.Proofs.Text.Spacing
import SkinLayout.Unified.Text
/-!
# Lengths in a row, round by round

The inside of an aggregate is a row of lengths with separators between them.  It is read in rounds:
each takes the text up to the first closing brace for a length and goes on behind the separator
that follows (`Unified.Rounds`).  A round that goes on uses up a closing brace, so there is an end to
them, whatever the text, and what they come to is what is read of the text cut at all its closing
braces at once (`Unified.exists_rounds`).
-/
namespace SkinLayout

namespace Unified

variable {s x rest : List Char}

/-! ## Braces -/

theorem unbrace_of_braces {inner : List Char} (h : trim s = '{' :: (inner ++ ['}'])) :
    unbrace s = .ok inner := by
  unfold unbrace
  simp [h]

theorem unbrace_of_unbraced (h : ∀ inner, trim s ≠ '{' :: (inner ++ ['}'])) :
    unbrace s = .error (.missingBraces (String.ofList (trim s))) := by
  unfold unbrace
  dsimp only
  split
  · rename_i inner htrim
    split
    · rename_i hlast
      obtain ⟨init, rfl⟩ := List.getLast?_eq_some_iff.1 hlast
      exact absurd htrim (h init)
    · rfl
  · rfl

/-! ## Separators -/

/-- What may stand behind a length: blanks, with at most one comma among them. -/
def IsGap (s : List Char) : Prop :=
  ∃ g g', AllBlank g ∧ AllBlank g' ∧ (s = g ++ g' ∨ s = g ++ ',' :: g')

/-- A separator, and a text behind it that does not go on with it. -/
structure Separates (gap rest : List Char) : Prop where
  isGap : IsGap gap
  ends : ∀ c t, rest = c :: t → isBlank c = false ∧ (c = ',' → ',' ∈ gap)

/-- What is skipped is a separator, as long as it goes on. -/
theorem exists_separates (s : List Char) :
    ∃ gap, Separates gap (skipSeparator s) ∧ s = gap ++ skipSeparator s := by
  obtain ⟨g, hg, hs⟩ := exists_trimLeft s
  have hleft := trimLeft_trimLeft s
  unfold skipSeparator
  split
  · rename_i t ht
    obtain ⟨g', hg', htail⟩ := exists_trimLeft t
    refine ⟨g ++ ',' :: g', ⟨⟨g, g', hg, hg', .inr rfl⟩, fun c r hc => ⟨?_, fun _ => by simp⟩⟩, ?_⟩
    · exact isBlank_head (hc ▸ trimLeft_trimLeft t)
    · rw [List.append_assoc, List.cons_append, ← htail, ← ht]
      exact hs
  · rename_i hcomma
    refine ⟨g, ⟨⟨g, [], hg, .nil, .inl (List.append_nil g).symm⟩, fun c r hc => ⟨?_, ?_⟩⟩, hs⟩
    · exact isBlank_head (hc ▸ hleft)
    · rintro rfl
      exact absurd hc (hcomma r)

theorem Separates.trimLeft_eq {gap : List Char} (h : Separates gap rest) :
    trimLeft rest = rest := by
  cases rest with
  | nil => rfl
  | cons c t => exact trimLeft_cons (h.ends c t rfl).1 t

/-- A separator that ends is skipped, and nothing else. -/
theorem Separates.skipSeparator_eq {gap : List Char} (h : Separates gap rest) :
    skipSeparator (gap ++ rest) = rest := by
  have hrest := h.trimLeft_eq
  obtain ⟨⟨g, g', hg, hg', hgap⟩, hends⟩ := h
  unfold skipSeparator
  rcases hgap with rfl | rfl
  · rw [trimLeft_blank_append (hg.append hg'), hrest]
    split
    · have hcomma := (hends ',' _ rfl).2 rfl
      exact absurd hcomma ((hg.append hg').not_mem rfl)
    · rfl
  · rw [List.append_assoc, trimLeft_blank_append hg, List.cons_append, trimLeft_cons rfl]
    exact (trimLeft_blank_append hg' rest).trans hrest

theorem length_skipSeparator_le (s : List Char) : (skipSeparator s).length ≤ s.length := by
  obtain ⟨gap, -, hs⟩ := exists_separates s
  have hlength := congrArg List.length hs
  rw [List.length_append] at hlength
  omega

theorem count_skipSeparator_le (c : Char) (s : List Char) :
    (skipSeparator s).count c ≤ s.count c := by
  obtain ⟨gap, -, hs⟩ := exists_separates s
  have hcount := congrArg (List.count c) hs
  rw [List.count_append] at hcount
  omega

/-- A separator ends before any brace. -/
theorem skipSeparator_cut (x rest : List Char) :
    skipSeparator (x ++ '}' :: rest) = skipSeparator x ++ '}' :: rest := by
  unfold skipSeparator
  rw [trimLeft_append_cons rfl]
  cases htrim : trimLeft x with
  | nil => rfl
  | cons c t =>
    by_cases hc : c = ','
    · subst hc
      exact trimLeft_append_cons rfl t rest
    · simp [hc]

/-! ## Rows -/

/-- The lengths that stand in a row, from the first on. -/
def ofRow (s : List Char) : Except UnifiedFault (List Unified) := ofPieces id (splitAt '}' s)

theorem groups_eq (s : List Char) : groups s = unbrace s >>= fun inner => ofRow (trim inner) := rfl

section
variable (skip : List Char → List Char)

theorem ofPieces_of_notMem (h : '}' ∉ s) : ofPieces skip (splitAt '}' s) =
    if skip s = [] then .ok [] else .error (.missingBraces (String.ofList (skip s))) := by
  rw [splitAt_of_not_mem h, ofPieces]

theorem ofPieces_of_cut (hx : '}' ∉ x) (rest : List Char) :
    ofPieces skip (splitAt '}' (x ++ '}' :: rest)) = ofChars (skip x ++ ['}']) >>= fun u =>
      ofPieces skipSeparator (splitAt '}' rest) >>= fun us => .ok (u :: us) := by
  rw [splitAt_append_cons rest hx]
  obtain ⟨piece, pieces, hpieces⟩ := List.exists_cons_of_ne_nil (splitAt_ne_nil '}' rest)
  rw [hpieces, ofPieces]
  exact List.cons_ne_nil _ _

end

/-- Skipping the separator first or with the first piece is the same. -/
theorem ofPieces_skipSeparator (s : List Char) :
    ofPieces skipSeparator (splitAt '}' s) = ofRow (skipSeparator s) := by
  unfold ofRow
  by_cases hs : '}' ∈ s
  · obtain ⟨x, rest, rfl, hx⟩ := List.eq_append_cons_of_mem hs
    have hskip : '}' ∉ skipSeparator x := by
      obtain ⟨gap, -, hgap⟩ := exists_separates x
      rw [hgap] at hx
      exact fun hmem => hx (List.mem_append_right gap hmem)
    rw [skipSeparator_cut, ofPieces_of_cut _ hx, ofPieces_of_cut _ hskip]
    rfl
  · have hskip : '}' ∉ skipSeparator s := by
      obtain ⟨gap, -, hgap⟩ := exists_separates s
      rw [hgap] at hs
      exact fun hmem => hs (List.mem_append_right gap hmem)
    rw [ofPieces_of_notMem _ hs, ofPieces_of_notMem _ hskip]
    rfl

theorem ofRow_of_notMem (hne : s ≠ []) (h : '}' ∉ s) :
    ofRow s = .error (.missingBraces (String.ofList s)) :=
  (ofPieces_of_notMem id h).trans (if_neg hne)

/-- One round, and the rest of them. -/
theorem ofRow_cut (hx : '}' ∉ x) (rest : List Char) :
    ofRow (x ++ '}' :: rest) = ofChars (x ++ ['}']) >>= fun u =>
      ofRow (skipSeparator rest) >>= fun us => .ok (u :: us) := by
  rw [← ofPieces_skipSeparator]
  exact ofPieces_of_cut id hx rest

/-! ## Rounds -/

/-- The number of rounds in which a text is read, and what they come to. -/
inductive Rounds : Nat → List Char → Except UnifiedFault (List Unified) → Prop
  | done : Rounds 0 [] (.ok [])
  | unclosed {s : List Char} (hne : s ≠ []) (hs : '}' ∉ s) :
    Rounds 1 s (.error (.missingBraces (String.ofList s)))
  | refused {x : List Char} {fault : UnifiedFault} (hx : '}' ∉ x)
    (hread : ofChars (x ++ ['}']) = .error fault) (rest : List Char) :
    Rounds 1 (x ++ '}' :: rest) (.error fault)
  | next {n : Nat} {x rest : List Char} {u : Unified} {r : Except UnifiedFault (List Unified)}
    (hx : '}' ∉ x) (hread : ofChars (x ++ ['}']) = .ok u) (h : Rounds n (skipSeparator rest) r) :
    Rounds (n + 1) (x ++ '}' :: rest) (r >>= fun us => .ok (u :: us))

/-- **The rounds end on every text**: there is at most one more of them than closing braces. -/
theorem exists_rounds (s : List Char) : ∃ n ≤ s.count '}' + 1, Rounds n s (ofRow s) := by
  by_cases hne : s = []
  · subst hne
    exact ⟨0, Nat.zero_le _, .done⟩
  by_cases hs : '}' ∈ s
  · obtain ⟨x, rest, rfl, hx⟩ := List.eq_append_cons_of_mem hs
    rw [ofRow_cut hx]
    cases hread : ofChars (x ++ ['}']) with
    | error fault => exact ⟨1, Nat.le_add_left _ _, .refused hx hread rest⟩
    | ok u =>
      have hshorter := length_skipSeparator_le rest
      obtain ⟨n, hn, hrounds⟩ := exists_rounds (skipSeparator rest)
      refine ⟨n + 1, ?_, .next hx hread hrounds⟩
      have hcount := count_skipSeparator_le '}' rest
      rw [List.count_append, List.count_cons_self]
      omega
  · rw [ofRow_of_notMem hne hs]
    exact ⟨1, Nat.le_add_left _ _, .unclosed hne hs⟩
termination_by s.length
decreasing_by
  subst_vars
  rw [List.length_append, List.length_cons]
  omega

end Unified

end SkinLayout
