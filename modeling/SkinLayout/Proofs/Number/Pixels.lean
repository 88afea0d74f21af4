import SkinLayout.Proofs.Number.Sums
/-!
# Whole pixels

Rounding to pixels in whole numbers: `Single.roundHalfAway` takes the nearest multiple of a pixel
(`units_roundHalfAway`), and numbers of whole pixels are added exactly as long as they are of a size
that the significand can hold (`units_add_pixels`).  What is lost is lost before: rounding a sum is
within a pixel of the sum of what is rounded (`nearestPixel_add_near`), and it is equal to it if one
part is whole already and nothing is negative (`nearestPixel_add`).
-/
namespace SkinLayout
namespace Single

/-- A pixel, in units. -/
def pixel : Int := 2 ^ 149

/-- A finite number of so few pixels that halves of a pixel are told apart. -/
structure Moderate (x : Float32) : Prop where
  isFinite : IsFinite x
  small : (units x).natAbs ≤ 2 ^ 22 * pixel

/-- The number of pixels nearest to a number of units, a half going away from zero. -/
def nearestPixel (q : Int) : Int :=
  if q < 0 then -((2 * -q + pixel) / (2 * pixel)) else (2 * q + pixel) / (2 * pixel)

theorem nearestPixel_near (q : Int) : 2 * (q - nearestPixel q * pixel).natAbs ≤ pixel := by
  unfold nearestPixel pixel
  split <;> omega

/-- **Rounding by parts loses less than two pixels**, even if the parts are half a pixel off. -/
theorem nearestPixel_add_near {a e b : Int} (h : 2 * (e - (b - a)).natAbs < pixel) :
    (nearestPixel a + nearestPixel e - nearestPixel b).natAbs ≤ 1 := by
  have ha := nearestPixel_near a
  have he := nearestPixel_near e
  have hb := nearestPixel_near b
  unfold pixel at *
  omega

/-- **Whole pixels are no matter for rounding**, on one side of zero. -/
theorem nearestPixel_add {p q : Int} (hp : 0 ≤ p) (hq : 0 ≤ q) :
    nearestPixel (p * pixel + q) = nearestPixel (p * pixel) + nearestPixel q := by
  unfold nearestPixel pixel
  split <;> split <;> split <;> omega

/-- Every number of whole pixels within the significand has a pattern. -/
theorem below_pixels {p : Nat} (hp : p < 2 ^ 24) :
    BinaryFormat.single.below (p * 2 ^ 149) < BinaryFormat.single.top ∧
      BinaryFormat.single.value (BinaryFormat.single.below (p * 2 ^ 149)) = p * 2 ^ 149 := by
  obtain ⟨s, hbelow, hlt, hleading⟩ := BinaryFormat.single.exists_below (p * 2 ^ 149)
  have hs : s ≤ 149 := by
    by_contra hlarge
    have hlead : 2 ^ 23 ≤ p * 2 ^ 149 / 2 ^ s := hleading.resolve_left (by omega)
    have hpow : (2 : Nat) ^ 150 ≤ 2 ^ s := Nat.pow_le_pow_right (by decide) (by omega)
    have := (Nat.le_div_iff_mul_le (Nat.two_pow_pos s)).1 hlead
    omega
  have hdvd : 2 ^ s ∣ p * 2 ^ 149 := Dvd.dvd.mul_left (Nat.pow_dvd_pow 2 hs) p
  have hvalue : BinaryFormat.single.value (BinaryFormat.single.below (p * 2 ^ 149)) =
      p * 2 ^ 149 := by
    rw [hbelow, BinaryFormat.single.value_eq hlt hleading, Nat.div_mul_cancel hdvd]
  refine ⟨?_, hvalue⟩
  refine BinaryFormat.single.value_strictMono.lt_iff_lt.1 (hvalue.trans_lt ?_)
  have htop : BinaryFormat.single.value BinaryFormat.single.top = 2 ^ 277 := by decide +kernel
  rw [htop]
  omega

/-- **Rounding to pixels takes the nearest whole pixel.** -/
theorem units_roundHalfAway {x : Float32} (hx : IsFinite x)
    (hsmall : (units x).natAbs ≤ (2 ^ 24 - 1) * pixel) :
    IsFinite (roundHalfAway x) ∧ units (roundHalfAway x) = nearestPixel (units x) * pixel := by
  have hfinite : ¬ BinaryFormat.single.top ≤ magnitude x := Nat.not_le.2 hx
  have hvalue := natAbs_units x
  generalize hv : BinaryFormat.single.value (magnitude x) = v at hvalue
  have hround : roundHalfAway x =
      ofPattern (isNegative x) (BinaryFormat.single.below ((2 * v + 2 ^ 149) / 2 ^ 150 * 2 ^ 149)) := by
    unfold roundHalfAway
    simp only
    rw [if_neg hfinite, hv]
    rfl
  unfold pixel at hsmall
  obtain ⟨hb, hwhole⟩ := below_pixels (p := (2 * v + 2 ^ 149) / 2 ^ 150) (by omega)
  rw [hround]
  refine ⟨isFinite_ofPattern _ hb, ?_⟩
  rw [units_ofPattern _ hb.le, hwhole]
  unfold nearestPixel units pixel
  rw [hv]
  by_cases hsign : isNegative x = true
  · simp only [if_pos hsign]
    split <;> push_cast <;> omega
  · simp only [if_neg hsign]
    split <;> push_cast <;> omega

theorem units_add_zero {x : Float32} (hx : IsFinite x) : IsFinite (x + 0) ∧ units (x + 0) = units x := by
  have hzero : units 0 = 0 := by decide
  have hsum : (units x + units 0).natAbs = BinaryFormat.single.value (magnitude x) := by
    rw [hzero, Int.add_zero, natAbs_units]
  have hadd := units_add hx (by decide) hx hsum
  rwa [hzero, Int.add_zero] at hadd

/-- **Whole pixels are added exactly**, as long as the sum fits the significand. -/
theorem units_add_pixels {x y : Float32} {p q : Int} (hx : IsFinite x) (hy : IsFinite y)
    (hp : units x = p * pixel) (hq : units y = q * pixel) (hsmall : (p + q).natAbs < 2 ^ 24) :
    IsFinite (x + y) ∧ units (x + y) = (p + q) * pixel := by
  obtain ⟨hb, hpixels⟩ := below_pixels hsmall
  have hsum : units x + units y = (p + q) * pixel := by rw [hp, hq, Int.add_mul]
  have habs : (units x + units y).natAbs =
      BinaryFormat.single.value (BinaryFormat.single.below ((p + q).natAbs * 2 ^ 149)) := by
    rw [hsum, Int.natAbs_mul, hpixels]
    rfl
  rw [← hsum]
  exact units_add hx hy hb habs

end Single
end SkinLayout
