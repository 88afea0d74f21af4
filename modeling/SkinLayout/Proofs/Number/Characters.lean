import Mathlib.Data.List.TakeDrop
import Mathlib.Data.List.TakeWhile
import SkinLayout.Number.Decimal
import SkinLayout.Text.Blank
/-!
# The characters of a number

Whatever text is read as a number has only letters, digits, points and signs in it
(`Single.isNumeralChar_of_ofChars?`): no blanks, and none of the characters that stand between
numbers in a longer text.
-/
namespace SkinLayout

/-- Characters that a text may have in it and still be a number. -/
def isNumeralChar (c : Char) : Bool := c.isAlphanum || ['.', '-', '+'].contains c

theorem isNumeralChar_of_isDigit {c : Char} (h : c.isDigit = true) : isNumeralChar c = true := by
  have halphanum : c.isAlphanum = true := Bool.or_eq_true_iff.2 (.inr h)
  exact Bool.or_eq_true_iff.2 (.inl halphanum)

/-- Lower case makes letters of letters only. -/
theorem isNumeralChar_of_toLower {c : Char} (h : c.toLower.isAlpha = true) :
    isNumeralChar c = true := by
  have halpha : c.isAlpha = true := by
    unfold Char.toLower at h
    split at h
    · rename_i hupper
      exact Bool.or_eq_true_iff.2 (.inl (decide_eq_true hupper))
    · exact h
  have halphanum : c.isAlphanum = true := Bool.or_eq_true_iff.2 (.inl halpha)
  exact Bool.or_eq_true_iff.2 (.inl halphanum)

/-- Letters and digits are numbered where there are no blanks. -/
theorem toNat_of_isAlphanum {c : Char} (h : c.isAlphanum = true) :
    48 ≤ c.toNat ∧ c.toNat ≤ 122 := by
  rcases Bool.or_eq_true_iff.1 h with halpha | hdigit
  · rcases Bool.or_eq_true_iff.1 halpha with hupper | hlower
    · obtain ⟨hlow, hhigh⟩ := of_decide_eq_true hupper
      have hlow : 65 ≤ c.toNat := UInt32.le_iff_toNat_le.1 hlow
      have hhigh : c.toNat ≤ 90 := UInt32.le_iff_toNat_le.1 hhigh
      omega
    · obtain ⟨hlow, hhigh⟩ := Bool.and_eq_true_iff.1 hlower
      have hlow : 97 ≤ c.toNat := UInt32.le_iff_toNat_le.1 (of_decide_eq_true hlow)
      have hhigh : c.toNat ≤ 122 := UInt32.le_iff_toNat_le.1 (of_decide_eq_true hhigh)
      omega
  · obtain ⟨hlow, hhigh⟩ := Char.isDigit_iff_toNat.1 hdigit
    have hlow : 48 ≤ c.toNat := hlow
    have hhigh : c.toNat ≤ 57 := hhigh
    omega

theorem isBlank_eq_false_of_isNumeralChar {c : Char} (h : isNumeralChar c = true) :
    isBlank c = false := by
  rcases Bool.or_eq_true_iff.1 h with halphanum | hsign
  · obtain ⟨hlow, hhigh⟩ := toNat_of_isAlphanum halphanum
    unfold isBlank
    simp
    omega
  · simp only [List.contains_iff_mem, List.mem_cons, List.not_mem_nil, or_false] at hsign
    rcases hsign with rfl | rfl | rfl <;> rfl

namespace Numeral

variable {s : List Char}

theorem isNumeralChar_of_natural? {n : Nat} (h : natural? s = some n) :
    ∀ c ∈ s, isNumeralChar c = true := by
  intro c hc
  unfold natural? at h
  split at h
  · rename_i hs
    exact isNumeralChar_of_isDigit (List.all_eq_true.1 hs.2 c hc)
  · cases h

/-- The digits of an exponent, behind its sign. -/
theorem isNumeralChar_of_map_natural? {f : Int → Int} {e : Int}
    (h : ((natural? s >>= fun n => pure (n : Int)).map f) = some e) :
    ∀ c ∈ s, isNumeralChar c = true := by
  obtain ⟨_, hn, -⟩ := Option.map_eq_some_iff.1 h
  obtain ⟨n, hn, -⟩ := Option.bind_eq_some_iff.1 hn
  exact isNumeralChar_of_natural? hn

theorem isNumeralChar_of_exponent? : ∀ {s : List Char} {e : Int}, exponent? s = some e →
    ∀ c ∈ s, isNumeralChar c = true
  | [], _, _ => by simp
  | c :: s, e, h => by
    unfold exponent? at h
    dsimp only at h
    split at h
    · rename_i hc
      have hhead : isNumeralChar c = true := by rcases hc with rfl | rfl <;> rfl
      rw [List.forall_mem_cons]
      refine ⟨hhead, ?_⟩
      split at h
      · rw [List.forall_mem_cons]
        exact ⟨rfl, isNumeralChar_of_map_natural? h⟩
      · rw [List.forall_mem_cons]
        exact ⟨rfl, isNumeralChar_of_map_natural? h⟩
      · exact isNumeralChar_of_map_natural? h
    · cases h

/-- Splitting off a run of digits leaves the rest to be looked at. -/
theorem isNumeralChar_of_span {s t r : List Char} (h : s.span Char.isDigit = (t, r))
    (hr : ∀ c ∈ r, isNumeralChar c = true) : ∀ c ∈ s, isNumeralChar c = true := by
  intro c hc
  rw [List.span_eq_takeWhile_dropWhile] at h
  cases h
  rw [← List.takeWhile_append_dropWhile (p := Char.isDigit) (l := s)] at hc
  rcases List.mem_append.1 hc with hc | hc
  · exact isNumeralChar_of_isDigit (List.mem_takeWhile_imp hc)
  · exact hr c hc

theorem isNumeralChar_of_splitFraction : ∀ {s t r : List Char}, splitFraction s = (t, r) →
    (∀ c ∈ r, isNumeralChar c = true) → ∀ c ∈ s, isNumeralChar c = true := by
  intro s t r h hr
  unfold splitFraction at h
  split at h
  · rw [List.forall_mem_cons]
    exact ⟨rfl, isNumeralChar_of_span h hr⟩
  · cases h
    exact hr

theorem isNumeralChar_of_decimal? {negative : Bool} {n : Numeral}
    (h : decimal? negative s = some n) : ∀ c ∈ s, isNumeralChar c = true := by
  unfold decimal? at h
  rcases hwhole : s.span Char.isDigit with ⟨whole, rest⟩
  rcases hpart : splitFraction rest with ⟨part, tail⟩
  simp only [hwhole, hpart] at h
  split at h
  · cases h
  · obtain ⟨e, he, -⟩ := Option.map_eq_some_iff.1 h
    have htail := isNumeralChar_of_exponent? he
    exact isNumeralChar_of_span hwhole (isNumeralChar_of_splitFraction hpart htail)

/-- The words are in letters, whatever their case. -/
theorem isNumeralChar_of_word {word : List Char} (hword : word.all Char.isAlpha = true)
    (h : s.map Char.toLower = word) : ∀ c ∈ s, isNumeralChar c = true := by
  intro c hc
  have hlower : c.toLower ∈ word := h ▸ List.mem_map_of_mem hc
  exact isNumeralChar_of_toLower (List.all_eq_true.1 hword _ hlower)

theorem isNumeralChar_of_unsigned? {negative : Bool} {n : Numeral}
    (h : unsigned? negative s = some n) : ∀ c ∈ s, isNumeralChar c = true := by
  unfold unsigned? at h
  simp only at h
  split at h
  · rename_i hinf
    rcases hinf with hinf | hinf
    · exact isNumeralChar_of_word (by decide) hinf
    · exact isNumeralChar_of_word (by decide) hinf
  · split at h
    · rename_i hnan
      exact isNumeralChar_of_word (by decide) hnan
    · exact isNumeralChar_of_decimal? h

theorem isNumeralChar_of_ofChars? {n : Numeral} (h : ofChars? s = some n) :
    ∀ c ∈ s, isNumeralChar c = true := by
  unfold ofChars? at h
  split at h
  · rw [List.forall_mem_cons]
    exact ⟨rfl, isNumeralChar_of_unsigned? h⟩
  · rw [List.forall_mem_cons]
    exact ⟨rfl, isNumeralChar_of_unsigned? h⟩
  · exact isNumeralChar_of_unsigned? h

end Numeral

/-- **A number is read from letters, digits, points and signs only.** -/
theorem Single.isNumeralChar_of_ofChars? {s : List Char} {x : Float32}
    (h : Single.ofChars? s = some x) : ∀ c ∈ s, isNumeralChar c = true := by
  obtain ⟨n, hn, -⟩ := Option.map_eq_some_iff.1 h
  exact Numeral.isNumeralChar_of_ofChars? hn

end SkinLayout
