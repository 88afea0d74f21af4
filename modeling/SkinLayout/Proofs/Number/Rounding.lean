import Mathlib.Algebra.Order.Group.Nat
import Mathlib.Tactic.Linarith
import Mathlib.Tactic.Ring
import SkinLayout.Number.Shortest
/-!
# Rounding to a pattern

A pattern is a number of doublings and a significand (`exists_significand`), and from one pattern to
the next the value rises by the spacing there (`value_succ`).  So `below` finds the one pattern
whose value and next value enclose a number, and a ratio that `roundsTo` places around a pattern is
rounded to it (`nearest_of_roundsTo`).  The shortest decimal of a pattern is such a ratio
(`standsFor_shortest`).
-/
namespace SkinLayout
namespace BinaryFormat

variable (f : BinaryFormat)

/-! ## Doublings and significand -/

theorem step_eq {s m : Nat} (hm : m < 2 * 2 ^ f.fraction) (hs : s = 0 ∨ 2 ^ f.fraction ≤ m) :
    f.step (s * 2 ^ f.fraction + m) = s := by
  unfold step
  have hP : 0 < 2 ^ f.fraction := Nat.two_pow_pos _
  rw [Nat.add_comm, Nat.add_mul_div_right _ _ hP]
  have hlt : m / 2 ^ f.fraction < 2 := Nat.div_lt_of_lt_mul (by rw [Nat.mul_comm]; exact hm)
  rcases hs with rfl | hs
  · omega
  · have : 1 ≤ m / 2 ^ f.fraction := (Nat.le_div_iff_mul_le hP).2 (by simpa using hs)
    omega

theorem value_eq {s m : Nat} (hm : m < 2 * 2 ^ f.fraction) (hs : s = 0 ∨ 2 ^ f.fraction ≤ m) :
    f.value (s * 2 ^ f.fraction + m) = m * 2 ^ s := by
  unfold value
  rw [f.step_eq hm hs, Nat.add_sub_cancel_left]

theorem exists_significand (b : Nat) : ∃ s m, b = s * 2 ^ f.fraction + m ∧
    m < 2 * 2 ^ f.fraction ∧ (s = 0 ∨ 2 ^ f.fraction ≤ m) := by
  have hP : 0 < 2 ^ f.fraction := Nat.two_pow_pos _
  have hb := Nat.div_add_mod' b (2 ^ f.fraction)
  have hr := Nat.mod_lt b hP
  match hq : b / 2 ^ f.fraction with
  | 0 => exact ⟨0, b, by omega, by rw [hq] at hb; omega, .inl rfl⟩
  | q + 1 =>
    refine ⟨q, 2 ^ f.fraction + b % 2 ^ f.fraction, ?_, by omega, .inr (Nat.le_add_right _ _)⟩
    rw [hq, Nat.succ_mul] at hb
    omega

/-! ## Values of neighbours -/

theorem value_succ (b : Nat) : f.value (b + 1) = f.value b + 2 ^ f.step b := by
  obtain ⟨s, m, rfl, hm, hs⟩ := f.exists_significand b
  rw [f.value_eq hm hs, f.step_eq hm hs]
  by_cases hlast : m + 1 < 2 * 2 ^ f.fraction
  · rw [Nat.add_assoc, f.value_eq hlast (by omega)]
    ring
  · -- after the last significand comes the first one of the next doubling
    have hnext : s * 2 ^ f.fraction + m + 1 = (s + 1) * 2 ^ f.fraction + 2 ^ f.fraction := by
      rw [Nat.succ_mul]; omega
    have hm2 : m + 1 = 2 * 2 ^ f.fraction := by omega
    rw [hnext, f.value_eq (by have := Nat.two_pow_pos f.fraction; omega) (.inr le_rfl)]
    calc 2 ^ f.fraction * 2 ^ (s + 1) = (m + 1) * 2 ^ s := by rw [hm2]; ring
      _ = m * 2 ^ s + 2 ^ s := by ring

theorem value_zero : f.value 0 = 0 := by simp [value]

theorem value_strictMono : StrictMono f.value :=
  strictMono_nat_of_lt_succ fun b => by
    rw [f.value_succ]
    exact Nat.lt_add_of_pos_right (Nat.two_pow_pos _)

/-! ## The pattern below a number -/

/-- **The significand that `below` picks**, and the spacing it picks it at. -/
theorem exists_below (q : Nat) : ∃ s, f.below q = s * 2 ^ f.fraction + q / 2 ^ s ∧
    q / 2 ^ s < 2 * 2 ^ f.fraction ∧ (s = 0 ∨ 2 ^ f.fraction ≤ q / 2 ^ s) := by
  refine ⟨q.log2 - f.fraction, rfl, ?_, ?_⟩
  · refine Nat.div_lt_of_lt_mul (Nat.lt_log2_self.trans_le ?_)
    rw [← Nat.pow_succ', ← Nat.pow_add]
    exact Nat.pow_le_pow_right (by omega) (by omega)
  · by_cases hs : q.log2 ≤ f.fraction
    · exact .inl (by omega)
    · refine .inr ((Nat.le_div_iff_mul_le (Nat.two_pow_pos _)).2 ?_)
      rw [← Nat.pow_add, Nat.add_sub_cancel' (by omega)]
      exact Nat.log2_self_le (by rintro rfl; simp at hs)

theorem value_below_le (q : Nat) : f.value (f.below q) ≤ q := by
  obtain ⟨s, hb, hm, hs⟩ := f.exists_below q
  rw [hb, f.value_eq hm hs]
  exact Nat.div_mul_le_self q _

theorem lt_value_below_succ (q : Nat) : q < f.value (f.below q + 1) := by
  obtain ⟨s, hb, hm, hs⟩ := f.exists_below q
  rw [f.value_succ, hb, f.value_eq hm hs, f.step_eq hm hs, ← Nat.succ_mul, Nat.mul_comm]
  exact Nat.lt_mul_div_succ q (Nat.two_pow_pos s)

/-! ## Rounding a ratio -/

/-- What `roundsTo` says as inequalities: the midpoints belong to even patterns only. -/
theorem roundsTo_iff {b num den : Nat} : f.roundsTo b num den = true ↔
    f.lowerSum b * den ≤ 2 * num ∧ 2 * num ≤ f.upperSum b * den ∧
      (b % 2 ≠ 0 → f.lowerSum b * den ≠ 2 * num ∧ 2 * num ≠ f.upperSum b * den) := by
  unfold roundsTo
  split
  · rename_i h
    simp [h]
  · rename_i h
    simp only [Bool.and_eq_true, decide_eq_true_eq]
    omega

/-- **A ratio around a pattern lies right above it or right below it**, so the search for the
pattern below lands on it or on the one before. -/
theorem below_of_roundsTo {b num den : Nat} (hden : 0 < den) (h : f.roundsTo b num den = true) :
    f.below (num / den) = b ∨ f.below (num / den) + 1 = b := by
  obtain ⟨hlo, hhi, -⟩ := f.roundsTo_iff.1 h
  have hle : f.value (f.below (num / den)) * den ≤ num :=
    (Nat.mul_le_mul_right _ (f.value_below_le _)).trans (Nat.div_mul_le_self num den)
  have hlt : num < f.value (f.below (num / den) + 1) * den :=
    (Nat.div_lt_iff_lt_mul hden).1 (f.lt_value_below_succ _)
  generalize f.below (num / den) = c at hle hlt
  by_contra hne
  rcases Nat.lt_or_ge b c with hbc | hbc
  · have h1 : f.value b < f.value c := f.value_strictMono hbc
    have h2 : f.value (b + 1) ≤ f.value c := f.value_strictMono.monotone hbc
    have : f.upperSum b * den < 2 * num := by
      unfold upperSum
      nlinarith
    omega
  · have h1 : f.value (c + 1) ≤ f.value (b - 1) := f.value_strictMono.monotone (by omega)
    have h2 : f.value (c + 1) < f.value b := f.value_strictMono (by omega)
    have : 2 * num < f.lowerSum b * den := by
      unfold lowerSum
      nlinarith
    omega

/-- **Rounding finds the pattern that a ratio rounds to.** -/
theorem nearest_of_roundsTo {b num den : Nat} (hb : b ≤ f.top) (hden : 0 < den)
    (h : f.roundsTo b (num * 2 ^ f.unit) den = true) : f.nearest num den = b := by
  have hround : f.roundFrom (f.below (num * 2 ^ f.unit / den)) (num * 2 ^ f.unit) den = b := by
    have hnear := f.below_of_roundsTo hden h
    obtain ⟨hlo, hhi, hodd⟩ := f.roundsTo_iff.1 h
    generalize f.below (num * 2 ^ f.unit / den) = c at hnear
    unfold roundFrom
    unfold lowerSum upperSum at *
    rcases hnear with rfl | rfl
    · split <;> rename_i hc
      · rfl
      · rw [Nat.compare_eq_eq] at hc
        by_cases hpar : c % 2 = 0
        · rw [hpar, Nat.add_zero]
        · exact absurd hc (hodd hpar).2
      · rw [Nat.compare_eq_gt] at hc
        omega
    · rw [Nat.add_sub_cancel] at hlo hodd
      split <;> rename_i hc
      · rw [Nat.compare_eq_lt] at hc
        omega
      · rw [Nat.compare_eq_eq] at hc
        by_cases hpar : (c + 1) % 2 = 0
        · omega
        · exact absurd hc.symm (hodd hpar).1
      · rfl
  show min f.top (f.roundFrom (f.below (num * 2 ^ f.unit / den)) (num * 2 ^ f.unit) den) = b
  rw [hround, Nat.min_eq_right hb]

/-- Less than half a unit rounds to nothing. -/
theorem eq_zero_of_roundsTo {b num den : Nat} (hsmall : 2 * num < den)
    (h : f.roundsTo b num den = true) : b = 0 := by
  obtain ⟨hlo, -, -⟩ := f.roundsTo_iff.1 h
  have hsum : f.lowerSum b = 0 := by
    by_contra hne
    have : den ≤ f.lowerSum b * den := Nat.le_mul_of_pos_left _ (Nat.pos_of_ne_zero hne)
    omega
  have hval : f.value b = f.value 0 := by
    rw [f.value_zero]
    exact Nat.eq_zero_of_add_eq_zero_left hsum
  exact f.value_strictMono.injective hval

/-! ## The shortest decimal -/

/-- Whether the decimal `c * 10 ^ k` rounds to the pattern `b`. -/
def standsFor (b c : Nat) (k : Int) : Bool :=
  f.roundsTo b (c * (f.gridScale k).2) (f.gridScale k).1

theorem standsFor_gridPoint {b c : Nat} {k : Int} (h : f.gridPoint b k = some c) :
    f.standsFor b c k = true := by
  unfold gridPoint at h
  simp only at h
  unfold standsFor
  split at h <;> rename_i hlow hhigh
  · split at h <;> cases h
    · exact hlow
    · exact hhigh
  · cases h
    exact hlow
  · cases h
    exact hhigh
  · cases h

/-- On the finest grid every value lies exactly. -/
theorem standsFor_finest (b : Nat) : f.standsFor b (f.value b * 5 ^ f.unit) (-f.unit) = true := by
  have hpow : (5 : Nat) ^ f.unit * 2 ^ f.unit = 10 ^ f.unit := by rw [← Nat.mul_pow]
  have hden : 0 < 10 ^ f.unit := Nat.pow_pos (by decide)
  have hup : f.value b < f.value (b + 1) := f.value_strictMono (Nat.lt_succ_self b)
  have hdown : f.value (b - 1) ≤ f.value b := f.value_strictMono.monotone (Nat.sub_le b 1)
  have hodd : b % 2 ≠ 0 → f.value (b - 1) < f.value b := fun h => f.value_strictMono (by omega)
  unfold standsFor gridScale
  simp only [Int.neg_neg, Int.toNat_natCast, Int.toNat_neg_natCast, Nat.pow_zero, Nat.mul_one]
  rw [f.roundsTo_iff, Nat.mul_assoc, hpow]
  unfold lowerSum upperSum
  generalize 10 ^ f.unit = D at *
  refine ⟨by nlinarith, by nlinarith, fun h => ?_⟩
  have := hodd h
  exact ⟨by nlinarith, by nlinarith⟩

theorem standsFor_searchGrids (b n : Nat) :
    f.standsFor b (f.searchGrids b n).1 (f.searchGrids b n).2 = true := by
  induction n with
  | zero => exact f.standsFor_finest b
  | succ n ih =>
    unfold searchGrids
    split
    · rename_i c hc
      exact f.standsFor_gridPoint hc
    · exact ih

/-- **The shortest decimal of a pattern rounds to the pattern.** -/
theorem standsFor_shortest (b : Nat) : f.standsFor b (f.shortest b).1 (f.shortest b).2 = true :=
  f.standsFor_searchGrids b _

/-- A decimal with a positive exponent, written out as a whole number. -/
theorem ofDecimal_whole {b c : Nat} {k : Int} (hb : b ≤ f.top) (hk : 0 ≤ k)
    (h : f.standsFor b c k = true) : f.ofDecimal (c * 10 ^ k.toNat) 0 = b := by
  unfold standsFor gridScale at h
  simp only [Int.toNat_of_nonpos (Int.neg_nonpos_of_nonneg hk), Nat.pow_zero] at h
  rw [show c * (2 ^ f.unit * 10 ^ k.toNat) = c * 10 ^ k.toNat * 2 ^ f.unit by ring] at h
  generalize c * 10 ^ k.toNat = m at h ⊢
  unfold ofDecimal
  split
  · rename_i hm
    subst hm
    exact (f.eq_zero_of_roundsTo (by simp) h).symm
  · simp only [le_refl, if_true, Int.toNat_zero, Nat.not_lt_zero, if_false, Nat.pow_zero,
      Nat.mul_one]
    exact f.nearest_of_roundsTo hb Nat.one_pos h

/-- A decimal with a negative exponent.  The exponents that `ofDecimal` answers from their size
alone are those of less than half a unit. -/
theorem ofDecimal_fraction {b c : Nat} {k : Int} (hb : b ≤ f.top) (hk : k < 0)
    (h : f.standsFor b c k = true) : f.ofDecimal c k = b := by
  have hden : 0 < 10 ^ (-k).toNat := Nat.pow_pos (by decide)
  unfold standsFor gridScale at h
  simp only [Int.toNat_of_nonpos hk.le, Nat.pow_zero, Nat.mul_one] at h
  unfold ofDecimal
  split
  · rename_i hm
    subst hm
    exact (f.eq_zero_of_roundsTo (by simp) h).symm
  · rw [if_neg (by omega)]
    split
    · rename_i hguard
      refine (f.eq_zero_of_roundsTo ?_ h).symm
      calc 2 * (c * 2 ^ f.unit) = c * 2 ^ (f.unit + 1) := by ring
        _ < 2 ^ (c.log2 + 1) * 2 ^ (f.unit + 1) :=
          Nat.mul_lt_mul_of_pos_right Nat.lt_log2_self (Nat.two_pow_pos _)
        _ = 2 ^ (c.log2 + f.unit + 2) := by ring
        _ ≤ 2 ^ (3 * (-k).toNat) := Nat.pow_le_pow_right (by decide) hguard.le
        _ = 8 ^ (-k).toNat := by rw [Nat.pow_mul]
        _ ≤ 10 ^ (-k).toNat := Nat.pow_le_pow_left (by decide) _
    · exact f.nearest_of_roundsTo hb hden h

end BinaryFormat
end SkinLayout
