import SkinLayout.Proofs.Number.Sums
/-!
# Zero, one, infinity and not-a-number

Whatever is not smaller than zero is at least zero or not a number (`nan_or_nonneg_of_not_lt`).  A
number times one is itself (`mul_one_eq_self`), and a finite number that is not a zero goes once
into itself (`div_self_eq_one`); a number that is not finite over itself is not a number
(`div_self_eq_nan`), and nothing comes back from there (`mul_nan_eq_nan`).
-/
namespace SkinLayout
namespace Single

open Float.Model (Format UnpackedFloat totalExponent)
open Float.Model.UnpackedFloat (Sign divCore pack packedNaN roundWithAccuracy unpackExponent
  unpackExponent_packComponents)

/-! ## Numbers that are not finite -/

theorem nan_or_infinity_of_not_isFinite {x : Float32} (h : ¬ IsFinite x) :
    x = nan ∨ ∃ negative, x = infinity negative := by
  by_cases hnan : x = nan
  · exact .inl hnan
  · have hmag : magnitude x = BinaryFormat.single.top :=
      Nat.le_antisymm (magnitude_le_top fun h => hnan (eq_nan_of_isNaN h)) (Nat.not_lt.1 h)
    exact .inr ⟨isNegative x, by rw [infinity, ← hmag, ofPattern_magnitude]⟩

theorem ofModel_pack_notANumber : Float32.ofModel (.pack .notANumber) = nan := by decide

theorem unpack_nan : nan.toModel.unpack = .notANumber := by rfl

theorem unpack_ne_notANumber {x : Float32} (h : x ≠ nan) : x.toModel.unpack ≠ .notANumber :=
  fun hu => h ((eq_ofModel_pack hu).trans ofModel_pack_notANumber)

/-- Only in not-a-number all bits of the exponent are set, and some of the significand. -/
theorem pack_ne_packedNaN {u : UnpackedFloat} (h : u ≠ .notANumber) :
    pack Format.binary32 u ≠ packedNaN Format.binary32 := by
  intro hpack
  cases u with
  | notANumber => exact h rfl
  | infinity s => cases s <;> exact absurd hpack (by decide)
  | zero s => cases s <;> exact absurd hpack (by decide)
  | finite s m e hm =>
    have hexp : unpackExponent (packedNaN Format.binary32) = -1#8 := by decide
    rw [← hpack] at hexp
    unfold pack at hpack hexp
    dsimp only at hpack hexp
    split at hpack
    · -- too large, so packed as infinity
      cases s <;> exact absurd hpack (by decide)
    · rename_i hsmall
      rw [if_neg hsmall] at hexp
      split at hexp <;> rw [unpackExponent_packComponents] at hexp
      · have hfield := congrArg BitVec.toNat hexp
        rw [BitVec.toNat_ofNat] at hfield
        change _ % 2 ^ 8 = 255 at hfield
        change ¬ 2 ^ 8 ≤ _ at hsmall
        omega
      · exact absurd hexp (by decide)

theorem ofModel_pack_ne_nan {u : UnpackedFloat} (h : u ≠ .notANumber) :
    Float32.ofModel (.pack u) ≠ nan := by
  intro hnan
  rw [← ofModel_pack_notANumber] at hnan
  exact pack_ne_packedNaN h (congrArg (fun x : Float32 => x.toBits.toBitVec) hnan)

/-! ## Order and nearness to zero -/

theorem lt_iff (x y : Float32) : x < y ↔ x.toModel.unpack.lt y.toModel.unpack = true := by
  show decide (x.toModel < y.toModel) = true ↔ _
  exact decide_eq_true_iff

theorem le_iff (x y : Float32) : x ≤ y ↔ x.toModel.unpack.le y.toModel.unpack = true := by
  show decide (x.toModel ≤ y.toModel) = true ↔ _
  exact decide_eq_true_iff

theorem unpack_zero : (0 : Float32).toModel.unpack = .zero .positive := by rfl

/-- Every number compares with zero, and zero with it the other way round. -/
theorem exists_compare_zero {x : Float32} (h : x ≠ nan) : ∃ o : Ordering,
    x.toModel.unpack.compare (0 : Float32).toModel.unpack = some o ∧
      (0 : Float32).toModel.unpack.compare x.toModel.unpack = some o.swap := by
  have hu := unpack_ne_notANumber h
  rw [unpack_zero]
  cases hxu : x.toModel.unpack with
  | notANumber => exact absurd hxu hu
  | infinity s => cases s <;> exact ⟨_, rfl, rfl⟩
  | zero s => exact ⟨_, rfl, rfl⟩
  | finite s m e hm => cases s <;> exact ⟨_, rfl, rfl⟩

theorem nan_or_nonneg_of_not_lt {x : Float32} (h : ¬ x < 0) : x = nan ∨ 0 ≤ x := by
  by_cases hx : x = nan
  · exact .inl hx
  · obtain ⟨o, hxo, hox⟩ := exists_compare_zero hx
    rw [lt_iff, UnpackedFloat.lt, hxo] at h
    refine .inr ?_
    rw [le_iff, UnpackedFloat.le, hox]
    cases o with
    | lt => exact absurd rfl h
    | eq => rfl
    | gt => rfl

theorem nan_or_pos_of_not_le {x : Float32} (h : ¬ x ≤ 0) : x = nan ∨ 0 < x := by
  by_cases hx : x = nan
  · exact .inl hx
  · obtain ⟨o, hxo, hox⟩ := exists_compare_zero hx
    rw [le_iff, UnpackedFloat.le, hxo] at h
    refine .inr ?_
    rw [lt_iff, UnpackedFloat.lt, hox]
    cases o with
    | lt => exact absurd rfl h
    | eq => exact absurd rfl h
    | gt => rfl

theorem isFinite_of_isNearZero {x : Float32} (h : isNearZero x = true) : IsFinite x := by
  by_contra hx
  rcases nan_or_infinity_of_not_isFinite hx with rfl | ⟨negative, rfl⟩
  · exact absurd h (by decide)
  · cases negative <;> exact absurd h (by decide)

theorem magnitude_ne_zero {x : Float32} (h : ¬ isNearZero x = true) : magnitude x ≠ 0 := by
  intro h0
  rw [← ofPattern_magnitude x, h0] at h
  cases hs : isNegative x <;> rw [hs] at h <;> exact h (by decide)

/-! ## Sums -/

theorem round_ne_notANumber (s : Sign) (m : Nat) (e : Int) :
    UnpackedFloat.round Format.binary32 s m e ≠ .notANumber := by
  unfold UnpackedFloat.round roundWithAccuracy
  dsimp only
  split <;> nofun

theorem normalize_ne_notANumber (m e : Int) (s : Sign) :
    UnpackedFloat.normalize Format.binary32 m e s ≠ .notANumber := by
  unfold UnpackedFloat.normalize
  split
  · exact round_ne_notANumber _ _ _
  · nofun
  · exact round_ne_notANumber _ _ _

/-- **A sum stays a number as long as finite ones are added**, though it may become infinite. -/
theorem add_ne_nan {x y : Float32} (hx : x ≠ nan) (hy : IsFinite y) : x + y ≠ nan := by
  have hu := unpack_ne_notANumber hx
  rw [add_eq rfl rfl]
  refine ofModel_pack_ne_nan ?_
  rcases unpack_cases hy with ⟨-, hv⟩ | ⟨s, m, hms, -, hv⟩
  · rw [hv]
    cases hxu : x.toModel.unpack with
    | notANumber => exact absurd hxu hu
    | infinity s' => nofun
    | zero s' => cases s' <;> cases sign y <;> nofun
    | finite s' m' e' hm' => nofun
  · rw [hv]
    cases hxu : x.toModel.unpack with
    | notANumber => exact absurd hxu hu
    | infinity s' => nofun
    | zero s' => nofun
    | finite s' m' e' hm' => exact normalize_ne_notANumber _ _ _

/-! ## Products -/

theorem mul_eq {x y : Float32} {u v : UnpackedFloat} (hx : x.toModel.unpack = u)
    (hy : y.toModel.unpack = v) : x * y = .ofModel (.pack (u.mul Format.binary32 v)) := by
  subst hx hy
  rfl

theorem unpack_one :
    (1 : Float32).toModel.unpack = .finite .positive (2 ^ 23) (-23) (by decide) := by rfl

theorem mul_positive (s : Sign) : s * .positive = s := by cases s <;> rfl

/-- **A number times one is itself.** -/
theorem mul_one_eq_self (x : Float32) : x * 1 = x := by
  by_cases hx : IsFinite x
  · rcases unpack_cases hx with ⟨-, hu⟩ | ⟨s, m, hms, -, hu⟩
    · refine (mul_eq hu unpack_one).trans (Eq.trans ?_ (eq_ofModel_pack hu).symm)
      rw [UnpackedFloat.mul, mul_positive]
    · -- the significand of one is 2 ^ 23, and rounding takes it out again
      refine (mul_eq hu unpack_one).trans (Eq.trans ?_ (eq_ofModel_pack hu).symm)
      have hexp : (s : Int) - 149 + -23 = (s : Int) - (23 : Nat) - 149 := by omega
      have hproduct : m * 2 ^ 23 * 2 ^ s = m * 2 ^ (s + 23) := by rw [Nat.pow_add]; ring
      rw [UnpackedFloat.mul, mul_positive,
        roundWithAccuracy_eq hexp hms hproduct (Nat.le_add_right s 23)]
  · rcases nan_or_infinity_of_not_isFinite hx with rfl | ⟨negative, rfl⟩
    · decide
    · cases negative <;> decide

theorem mul_nan_eq_nan (x : Float32) : x * nan = nan := by
  refine (mul_eq rfl unpack_nan).trans (Eq.trans ?_ ofModel_pack_notANumber)
  cases x.toModel.unpack <;> rfl

theorem mul_zero_beq_zero {x : Float32} (hx : IsFinite x) : (x * 0 == 0) = true := by
  rcases unpack_cases hx with ⟨-, hu⟩ | ⟨s, m, hms, -, hu⟩ <;>
    rw [mul_eq hu unpack_zero, UnpackedFloat.mul] <;> cases sign x <;> decide

/-! ## Quotients -/

theorem div_eq {x y : Float32} {u v : UnpackedFloat} (hx : x.toModel.unpack = u)
    (hy : y.toModel.unpack = v) : x / y = .ofModel (.pack (u.div Format.binary32 v)) := by
  subst hx hy
  rfl

/-- A significand goes into itself without a rest, once the quotient has all its bits. -/
theorem divCore_self {m : Nat} (hm : 0 < m) (e : Int) :
    divCore Format.binary32 m e m e = (2 ^ 24, -24, .exact) := by
  have htarget : min (e - e) (Format.binary32.targetExponent
      (totalExponent m e - totalExponent m e)) = -24 := by
    rw [Int.sub_self, Int.sub_self]
    decide
  have hshift : (e - e - -24).toNat = 24 := by omega
  unfold divCore
  simp only [htarget, hshift, Nat.shiftLeft_eq, Nat.mul_div_cancel_left _ hm, Nat.mul_mod_right]
  rfl

/-- **A finite number other than zero goes once into itself.** -/
theorem div_self_eq_one {x : Float32} (hx : IsFinite x) (h0 : magnitude x ≠ 0) : x / x = 1 := by
  rcases unpack_cases hx with ⟨hzero, -⟩ | ⟨s, m, hms, -, hu⟩
  · exact absurd hzero h0
  · rw [div_eq hu hu, UnpackedFloat.div, divCore_self hms.pos]
    cases sign x <;> decide

theorem div_self_eq_nan {x : Float32} (h : ¬ IsFinite x) : x / x = nan := by
  rcases nan_or_infinity_of_not_isFinite h with rfl | ⟨negative, rfl⟩
  · decide
  · cases negative <;> decide

end Single
end SkinLayout
