import Mathlib.Data.List.TakeDrop
import Mathlib.Data.List.TakeWhile
import SkinLayout.Number.Decimal
import SkinLayout.Proofs.Number.Bits
import SkinLayout.Proofs.Number.Characters
import SkinLayout.Proofs.Number.Rounding
import SkinLayout.Proofs.Text.Spacing
/-!
# A written number reads back

Reading what was written gives the number again, every bit of it (`ofChars?_toChars`): the text is
positional, so it says exactly the decimal `c * 10 ^ k` it was made from (`unsigned?_whole`,
`unsigned?_fraction`), and that decimal rounds to the number.  Being the text of a number it has no
blanks in it, and trimming leaves it alone (`trim_toChars`).
-/
namespace SkinLayout

/-! ## Digits -/

def AllDigits (s : List Char) : Prop := ∀ c ∈ s, c.isDigit = true

theorem allDigits_toDigits (n : Nat) : AllDigits (Nat.toDigits 10 n) := fun _ hc =>
  Nat.isDigit_of_mem_toDigits (by decide) (by decide) hc

theorem exists_toDigits (n : Nat) : ∃ c s, Nat.toDigits 10 n = c :: s ∧ c.isDigit = true := by
  obtain ⟨c, s, hs⟩ := List.exists_cons_of_ne_nil (Nat.toDigits_ne_nil (b := 10) (n := n))
  exact ⟨c, s, hs, allDigits_toDigits n c (by rw [hs]; exact List.mem_cons_self)⟩

theorem allDigits_fixedDigits (width n : Nat) : AllDigits (fixedDigits width n) := by
  induction width generalizing n with
  | zero => intro c hc; cases hc
  | succ width ih =>
    intro c hc
    rcases List.mem_append.1 hc with hc | hc
    · exact ih _ c hc
    · rw [List.mem_singleton.1 hc, Nat.isDigit_digitChar]
      exact decide_eq_true (Nat.mod_lt n (by decide))

theorem length_fixedDigits (width n : Nat) : (fixedDigits width n).length = width := by
  induction width generalizing n with
  | zero => rfl
  | succ width ih => rw [fixedDigits, List.length_append, ih]; rfl

theorem ofDigitChars_fixedDigits (width n init : Nat) :
    Nat.ofDigitChars 10 (fixedDigits width n) init = init * 10 ^ width + n % 10 ^ width := by
  induction width generalizing n with
  | zero => simp [fixedDigits, Nat.mod_one]
  | succ width ih =>
    rw [fixedDigits, Nat.ofDigitChars_append, ih,
      Nat.ofDigitChars_cons_digitChar_of_lt_ten (Nat.mod_lt n (by decide)), Nat.ofDigitChars_nil,
      Nat.pow_succ', Nat.mod_mul]
    ring

theorem span_digits {s : List Char} (hs : AllDigits s) (rest : List Char)
    (hrest : rest.takeWhile Char.isDigit = []) : (s ++ rest).span Char.isDigit = (s, rest) := by
  have hdrop : rest.dropWhile Char.isDigit = rest := by
    have := List.takeWhile_append_dropWhile (p := Char.isDigit) (l := rest)
    rwa [hrest, List.nil_append] at this
  rw [List.span_eq_takeWhile_dropWhile, List.takeWhile_append_of_pos hs,
    List.dropWhile_append_of_pos hs, hrest, hdrop, List.append_nil]

/-! ## Reading positional text -/

namespace Numeral

/-- A text that begins with a digit is none of the words. -/
theorem unsigned?_digit {c : Char} (hc : c.isDigit = true) (negative : Bool) (s : List Char) :
    unsigned? negative (c :: s) = decimal? negative (c :: s) := by
  have hlow : c.toLower = c := by
    have hle : c.val ≤ '9'.val := by simpa using (Bool.and_eq_true_iff.1 hc).2
    have hlt : ¬ 'A'.val ≤ c.val := fun h => absurd (UInt32.le_trans h hle) (by decide)
    unfold Char.toLower
    rw [dif_neg fun h => hlt h.1]
  have hi : c ≠ 'i' := by rintro rfl; exact absurd hc (by decide)
  have hn : c ≠ 'n' := by rintro rfl; exact absurd hc (by decide)
  unfold unsigned?
  simp [hlow, hi, hn]

theorem decimal?_whole {s : List Char} (hs : AllDigits s) (hne : s ≠ []) (negative : Bool) :
    decimal? negative s = some (.finite negative (Nat.ofDigitChars 10 s 0) 0) := by
  have hspan := span_digits hs [] rfl
  rw [List.append_nil] at hspan
  unfold decimal?
  simp only [hspan, splitFraction, exponent?, hne, false_and, if_false, List.append_nil,
    List.length_nil, Option.map_some]
  rfl

theorem decimal?_fraction {s t : List Char} (hs : AllDigits s) (ht : AllDigits t) (hne : s ≠ [])
    (negative : Bool) : decimal? negative (s ++ '.' :: t) =
      some (.finite negative (Nat.ofDigitChars 10 (s ++ t) 0) (-t.length)) := by
  have hspan := span_digits hs ('.' :: t) (by simp)
  have htail := span_digits ht [] rfl
  rw [List.append_nil] at htail
  unfold decimal?
  simp only [hspan, htail, splitFraction, exponent?, hne, false_and, if_false, Option.map_some,
    Int.zero_sub]

theorem unsigned?_whole (negative : Bool) (n : Nat) :
    unsigned? negative (Nat.toDigits 10 n) = some (.finite negative n 0) := by
  obtain ⟨c, s, hs, hc⟩ := exists_toDigits n
  rw [hs, unsigned?_digit hc, ← hs, decimal?_whole (allDigits_toDigits n) Nat.toDigits_ne_nil,
    Nat.ofDigitChars_ten_toDigits]

theorem unsigned?_fraction (negative : Bool) (n places m : Nat) :
    unsigned? negative (Nat.toDigits 10 n ++ '.' :: fixedDigits places m) =
      some (.finite negative (n * 10 ^ places + m % 10 ^ places) (-places)) := by
  obtain ⟨c, s, hs, hc⟩ := exists_toDigits n
  rw [hs, List.cons_append, unsigned?_digit hc, ← List.cons_append, ← hs,
    decimal?_fraction (allDigits_toDigits n) (allDigits_fixedDigits _ _) Nat.toDigits_ne_nil,
    length_fixedDigits, Nat.ofDigitChars_append, Nat.ofDigitChars_ten_toDigits,
    ofDigitChars_fixedDigits]

/-- **Positional text says exactly the decimal it was made from.** -/
theorem unsigned?_positional (negative : Bool) (c : Nat) (k : Int) :
    unsigned? negative (positional c k) = some (if 0 ≤ k then .finite negative (c * 10 ^ k.toNat) 0
      else .finite negative c k) := by
  by_cases hk : 0 ≤ k
  · rw [positional, if_pos hk, if_pos hk, unsigned?_whole]
  · have hexp : -((-k).toNat : Int) = k := by omega
    rw [positional, if_neg hk, if_neg hk]
    simp only
    rw [unsigned?_fraction, Nat.mod_mod, Nat.div_add_mod', hexp]

end Numeral

/-! ## The text of a number -/

namespace Single

theorem unsigned?_infinity (negative : Bool) :
    (Numeral.unsigned? negative ['i', 'n', 'f']).map Numeral.toSingle =
      some (infinity negative) := rfl

/-- **The text of a pattern says the pattern**, whatever the sign in front. -/
theorem unsigned?_magnitudeChars {b : Nat} (hb : b ≤ BinaryFormat.single.top) (negative : Bool) :
    (Numeral.unsigned? negative (magnitudeChars b)).map Numeral.toSingle =
      some (ofPattern negative b) := by
  by_cases htop : b = BinaryFormat.single.top
  · rw [magnitudeChars, if_pos htop, htop]
    exact unsigned?_infinity negative
  · have hstands := BinaryFormat.single.standsFor_shortest b
    rw [magnitudeChars, if_neg htop]
    generalize BinaryFormat.single.shortest b = d at hstands
    obtain ⟨c, k⟩ := d
    simp only at hstands ⊢
    rw [Numeral.unsigned?_positional]
    by_cases hk : 0 ≤ k
    · rw [if_pos hk, ← BinaryFormat.single.ofDecimal_whole hb hk hstands]
      rfl
    · rw [if_neg hk, ← BinaryFormat.single.ofDecimal_fraction hb (Int.not_le.1 hk) hstands]
      rfl

/-! ## Reading it back -/

theorem ofChars?_magnitudeChars (b : Nat) :
    Numeral.ofChars? (magnitudeChars b) = Numeral.unsigned? false (magnitudeChars b) := by
  have hhead : ∃ c s, magnitudeChars b = c :: s ∧ c ≠ '-' ∧ c ≠ '+' := by
    unfold magnitudeChars
    split
    · exact ⟨_, _, rfl, by decide, by decide⟩
    · generalize BinaryFormat.single.shortest b = d
      obtain ⟨c, k⟩ := d
      simp only
      unfold positional
      split
      · obtain ⟨c, s, hs, hc⟩ := exists_toDigits (c * 10 ^ k.toNat)
        exact ⟨c, s, hs, (by rintro rfl; cases hc), (by rintro rfl; cases hc)⟩
      · obtain ⟨c, s, hs, hc⟩ := exists_toDigits (c / 10 ^ (-k).toNat)
        exact ⟨c, _, congrArg (· ++ _) hs, (by rintro rfl; cases hc), (by rintro rfl; cases hc)⟩
  obtain ⟨c, s, hs, hminus, hplus⟩ := hhead
  rw [hs]
  unfold Numeral.ofChars?
  split
  · rename_i h
    exact absurd (List.cons.inj h).1 hminus
  · rename_i h
    exact absurd (List.cons.inj h).1 hplus
  · rfl

/-- **Every number reads back from its text**, the infinities and the not-a-number too. -/
theorem ofChars?_toChars (x : Float32) : ofChars? (toChars x) = some x := by
  unfold ofChars? toChars
  split
  · rename_i hnan
    rw [eq_nan_of_isNaN hnan]
    rfl
  · rename_i hnan
    have hb := magnitude_le_top hnan
    have hx := ofPattern_magnitude x
    split
    · rename_i hneg
      rw [hneg] at hx
      rw [Numeral.ofChars?, unsigned?_magnitudeChars hb, hx]
    · rename_i hneg
      rw [Bool.not_eq_true] at hneg
      rw [hneg] at hx
      rw [ofChars?_magnitudeChars, unsigned?_magnitudeChars hb, hx]

/-! ## The characters of a number -/

/-- A number has no blanks in its text, and some text. -/
theorem solid_toChars (x : Float32) : Solid (toChars x) where
  ne_nil hnil := by
    have hread := ofChars?_toChars x
    rw [hnil] at hread
    cases hread
  not_blank c hc := isBlank_eq_false_of_isNumeralChar <|
    isNumeralChar_of_ofChars? (ofChars?_toChars x) c hc

/-- **The text of a number has no blanks to trim.** -/
theorem trim_toChars (x : Float32) : trim (toChars x) = toChars x := by
  have htrim := (solid_toChars x).trim_between .nil .nil
  rwa [List.append_nil, List.nil_append] at htrim

theorem ofChars?_trim_toText (x : Float32) : ofChars? (trim (toText x).toList) = some x := by
  rw [toText, String.toList_ofList, trim_toChars, ofChars?_toChars]

end Single

end SkinLayout
