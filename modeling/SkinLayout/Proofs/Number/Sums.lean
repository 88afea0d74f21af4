import SkinLayout.Proofs.Number.Bits
import SkinLayout.Proofs.Number.Rounding
/-!
# Sums that need no rounding

A finite number is a whole number of units of the least positive one (`Single.units`).  The library
adds by bringing both numbers to the smaller exponent, adding the significands and rounding, and
rounding leaves a number that the format can hold alone (`round_eq`).  So a sum that is the value of
a pattern is exact (`units_add`), and on such sums `Float32` is the arithmetic of whole numbers.
-/
namespace SkinLayout
namespace Single

open Float.Model (Format totalExponent UnpackedFloat)
open Float.Model.UnpackedFloat (ExtendedMantissa Sign decreaseExponent roundWithAccuracy
  shiftToExponent shiftToTargetExponent unpack unpackExponent unpackMantissa unpackSign)

/-! ## Finite numbers and their values -/

/-- Neither infinite nor not a number. -/
def IsFinite (x : Float32) : Prop := magnitude x < BinaryFormat.single.top

instance (x : Float32) : Decidable (IsFinite x) := inferInstanceAs (Decidable (_ < _))

theorem IsFinite.ne_nan {x : Float32} (h : IsFinite x) : x ≠ nan := by
  rintro rfl
  exact absurd h (by decide)

/-- The value of a finite number, in units of the least positive one. -/
def units (x : Float32) : Int :=
  if isNegative x then -(BinaryFormat.single.value (magnitude x) : Int)
  else BinaryFormat.single.value (magnitude x)

theorem isFinite_ofPattern (negative : Bool) {b : Nat} (hb : b < BinaryFormat.single.top) :
    IsFinite (ofPattern negative b) := by
  unfold IsFinite
  rwa [magnitude_ofPattern negative hb.le]

theorem units_ofPattern (negative : Bool) {b : Nat} (hb : b ≤ BinaryFormat.single.top) :
    units (ofPattern negative b) =
      if negative then -(BinaryFormat.single.value b : Int) else BinaryFormat.single.value b := by
  unfold units
  rw [magnitude_ofPattern negative hb, isNegative_ofPattern negative hb]

theorem natAbs_units (x : Float32) :
    (units x).natAbs = BinaryFormat.single.value (magnitude x) := by
  unfold units
  split <;> simp

theorem units_of_magnitude_eq_zero {x : Float32} (h : magnitude x = 0) : units x = 0 := by
  rw [← Int.natAbs_eq_zero, natAbs_units, h, BinaryFormat.value_zero]

/-- **Numbers of one value are equal**, though the two zeros are two numbers. -/
theorem beq_of_units_eq {x y : Float32} (hx : IsFinite x) (hy : IsFinite y)
    (h : units x = units y) : (x == y) = true := by
  have hnan : Float32.nan = nan := by decide
  have hmag : magnitude x = magnitude y := by
    have := congrArg Int.natAbs h
    rw [natAbs_units, natAbs_units] at this
    exact BinaryFormat.single.value_strictMono.injective this
  refine Float32.beq_iff_ne_nan_and_eq.2 ⟨hnan ▸ hx.ne_nan, hnan ▸ hy.ne_nan, ?_⟩
  rw [← ofPattern_magnitude x, ← ofPattern_magnitude y, ← hmag]
  by_cases hsign : isNegative x = isNegative y
  · exact .inl (by rw [hsign])
  · -- of opposite numbers only the zeros have one value
    have hopposite : units y = -units x := by
      unfold units
      rw [← hmag]
      cases hxs : isNegative x <;> cases hys : isNegative y <;> simp_all
    have hzero : magnitude x = 0 := by
      refine BinaryFormat.single.value_strictMono.injective ?_
      rw [BinaryFormat.value_zero, ← natAbs_units]
      omega
    rw [hzero]
    cases hxs : isNegative x <;> cases hys : isNegative y <;> rw [hxs, hys] at hsign
    · exact absurd rfl hsign
    · exact .inr (.inl ⟨by decide, by decide⟩)
    · exact .inr (.inr ⟨by decide, by decide⟩)
    · exact absurd rfl hsign

/-! ## Significands -/

/-- A significand with a number of doublings, in the one form that a pattern has. -/
structure Canonical (m s : Nat) : Prop where
  pos : 0 < m
  lt : m < 2 * 2 ^ 23
  leading : s = 0 ∨ 2 ^ 23 ≤ m

theorem Canonical.value_eq {m s : Nat} (h : Canonical m s) :
    BinaryFormat.single.value (s * 2 ^ 23 + m) = m * 2 ^ s :=
  BinaryFormat.single.value_eq h.lt h.leading

theorem exists_canonical {b : Nat} (hb : b ≠ 0) : ∃ s m, b = s * 2 ^ 23 + m ∧ Canonical m s := by
  obtain ⟨s, m, rfl, hlt, hs⟩ := BinaryFormat.single.exists_significand b
  have hlt : m < 2 * 2 ^ 23 := hlt
  have hs : s = 0 ∨ 2 ^ 23 ≤ m := hs
  have hb : s * 2 ^ 23 + m ≠ 0 := hb
  exact ⟨s, m, rfl, by omega, hlt, hs⟩

/-! ## Rounding what needs none -/

theorem log2_mul_two_pow {n : Nat} (hn : n ≠ 0) (k : Nat) : (n * 2 ^ k).log2 = n.log2 + k := by
  induction k with
  | zero => rw [Nat.pow_zero, Nat.mul_one, Nat.add_zero]
  | succ k ih =>
    rw [Nat.pow_succ', Nat.mul_left_comm, Nat.log2_two_mul (by positivity), ih, Nat.add_assoc]

/-- Zeros are shifted out without a trace. -/
theorem shiftRight_multiple (m d : Nat) :
    ExtendedMantissa.ofMantissaAndAccuracy (m * 2 ^ d) .exact >>> d =
      ExtendedMantissa.ofMantissaAndAccuracy m .exact := by
  show d.repeat ExtendedMantissa.shiftRightOne _ = _
  induction d generalizing m with
  | zero => simp [Nat.repeat]
  | succ d ih =>
    rw [Nat.repeat, Nat.pow_succ', ← Nat.mul_assoc, ih]
    simp [ExtendedMantissa.ofMantissaAndAccuracy, ExtendedMantissa.shiftRightOne]

section Exact

-- the exponent lies `k` doublings above, or `j` below, the one of the least positive number
variable {M k j m s : Nat} {e : Int} (he : e = (k : Int) - j - 149) (hms : Canonical m s)
  (h : M * 2 ^ k = m * 2 ^ (s + j))

include he hms h

/-- The exponent that rounding goes for is the one of the canonical form. -/
theorem targetExponent_eq :
    Format.binary32.targetExponent (totalExponent M e) = (s : Int) - 149 := by
  have hm : m ≠ 0 := hms.pos.ne'
  have hM : M ≠ 0 := by
    rintro rfl
    have : m * 2 ^ (s + j) ≠ 0 := by positivity
    omega
  have hlog : M.log2 + k = m.log2 + (s + j) := by
    have := congrArg Nat.log2 h
    rwa [log2_mul_two_pow hM, log2_mul_two_pow hm] at this
  have hupper : m.log2 < 24 := (Nat.log2_lt hm).2 hms.lt
  have hlower : s = 0 ∨ 23 ≤ m.log2 := hms.leading.imp_right (Nat.le_log2 hm).2
  have hmin : Format.binary32.minExponent = -149 := by decide
  have hbits : Format.binary32.mantissaBits = 24 := by decide
  unfold Format.targetExponent totalExponent
  rw [hmin, hbits]
  omega

theorem shiftToTargetExponent_eq (hks : k ≤ s + j) :
    shiftToTargetExponent Format.binary32 M e .exact =
      (.ofMantissaAndAccuracy m .exact, (s : Int) - 149) := by
  obtain ⟨d, hd⟩ := Nat.exists_eq_add_of_le hks
  have hM : M = m * 2 ^ d := by
    refine Nat.eq_of_mul_eq_mul_right (Nat.two_pow_pos k) (h.trans ?_)
    rw [hd]
    ring
  unfold shiftToTargetExponent shiftToExponent
  rw [targetExponent_eq he hms h, hM]
  have hshift : ((s : Int) - 149 - e).toNat = d := by omega
  simp only [hshift, shiftRight_multiple]
  congr 1
  omega

theorem roundWithAccuracy_eq (hks : k ≤ s + j) (sign : Sign) :
    roundWithAccuracy Format.binary32 sign M e .exact =
      .finite sign m ((s : Int) - 149) hms.pos := by
  have hround : (ExtendedMantissa.ofMantissaAndAccuracy m .exact).roundedMantissa = m := rfl
  have hne : (ExtendedMantissa.ofMantissaAndAccuracy m .exact).mantissa ≠ 0 := hms.pos.ne'
  have hexp : (s : Int) - 149 = (s : Int) - (0 : Nat) - 149 := by omega
  have hself : m * 2 ^ s = m * 2 ^ (s + 0) := by rw [Nat.add_zero]
  unfold roundWithAccuracy
  rw [shiftToTargetExponent_eq he hms h hks]
  -- nothing was rounded, so the second shift has nothing to do
  simp only [hround, shiftToTargetExponent_eq hexp hms hself (Nat.le_add_right s 0)]
  rw [dif_neg hne]
  rfl

/-- **A number that the format can hold is rounded to itself**, whatever its exponent. -/
theorem round_eq (sign : Sign) :
    UnpackedFloat.round Format.binary32 sign M e = .finite sign m ((s : Int) - 149) hms.pos := by
  unfold UnpackedFloat.round decreaseExponent
  rw [targetExponent_eq he hms h]
  simp only [Nat.shiftLeft_eq]
  generalize hd : (e - ((s : Int) - 149)).toNat = d
  have he' : e - (d : Int) = ((k - d : Nat) : Int) - j - 149 := by omega
  refine roundWithAccuracy_eq he' hms ?_ (by omega) sign
  rw [Nat.mul_assoc, ← Nat.pow_add, Nat.add_sub_cancel' (by omega)]
  exact h

end Exact

/-! ## Taking a number apart -/

/-- The sign as the library has it. -/
def sign (x : Float32) : Sign := if isNegative x then .negative else .positive

theorem ofBitVec_unpackSign (x : Float32) :
    Sign.ofBitVec (@unpackSign Format.binary32 x.toBits.toBitVec) = sign x := by
  have hlt : x.toBits.toNat < 2 ^ 32 := x.toBits.toNat_lt
  have hbit : (@unpackSign Format.binary32 x.toBits.toBitVec).toNat = x.toBits.toNat / 2 ^ 31 % 2 :=
    toNat_unpackSign _
  unfold Sign.ofBitVec sign isNegative
  by_cases h : 2 ^ 31 ≤ x.toBits.toNat
  · have hne : @unpackSign Format.binary32 x.toBits.toBitVec ≠ 0#1 := by
      intro hzero
      rw [hzero] at hbit
      change 0 = _ at hbit
      omega
    rw [if_neg hne, if_pos (by simpa using h)]
  · have heq : @unpackSign Format.binary32 x.toBits.toBitVec = 0#1 := by
      refine BitVec.eq_of_toNat_eq (hbit.trans ?_)
      show _ = 0
      omega
    rw [if_pos heq, if_neg (by simpa using h)]

/-- **A finite number taken apart**: a zero, or the significand and the doublings of its pattern. -/
theorem unpack_cases {x : Float32} (hx : IsFinite x) :
    (magnitude x = 0 ∧ x.toModel.unpack = .zero (sign x)) ∨
    ∃ s m, ∃ hms : Canonical m s, magnitude x = s * 2 ^ 23 + m ∧
      x.toModel.unpack = .finite (sign x) m ((s : Int) - 149) hms.pos := by
  have hlt : x.toBits.toNat < 2 ^ 32 := x.toBits.toNat_lt
  have hfinite : x.toBits.toNat % 2 ^ 31 < 0x7f800000 := hx
  have hexp : (@unpackExponent Format.binary32 x.toBits.toBitVec).toNat =
      x.toBits.toNat / 2 ^ 23 % 2 ^ 8 := toNat_unpackExponent _
  have hman : (@unpackMantissa Format.binary32 x.toBits.toBitVec).toNat =
      x.toBits.toNat % 2 ^ 23 := toNat_unpackMantissa _
  have htop : @unpackExponent Format.binary32 x.toBits.toBitVec ≠ -1#_ := by
    intro htop
    have : x.toBits.toNat / 2 ^ 23 % 2 ^ 8 = 255 := by
      rw [← hexp, htop]
      rfl
    omega
  have hbias : (Format.binary32.exponentBias : Int) = 127 := by decide
  show (_ ∧ unpack Format.binary32 x.toBits.toBitVec = _) ∨ ∃ s m, ∃ hms : Canonical m s, _ ∧
    unpack Format.binary32 x.toBits.toBitVec = _
  unfold unpack magnitude
  simp only [ofBitVec_unpackSign, if_neg htop, hbias, hexp]
  by_cases hsub : @unpackExponent Format.binary32 x.toBits.toBitVec = 0#_
  · have hzero : x.toBits.toNat / 2 ^ 23 % 2 ^ 8 = 0 := by
      rw [← hexp, hsub]
      rfl
    simp only [if_pos hsub, hzero]
    by_cases hm : @unpackMantissa Format.binary32 x.toBits.toBitVec = 0#_
    · have hm0 : x.toBits.toNat % 2 ^ 23 = 0 := by
        rw [← hman, hm]
        rfl
      exact .inl ⟨by omega, dif_pos hm⟩
    · have hpos : 0 < (@unpackMantissa Format.binary32 x.toBits.toBitVec).toNat :=
        Nat.pos_of_ne_zero fun h => hm (BitVec.eq_of_toNat_eq h)
      refine .inr ⟨0, _, ⟨hpos, by omega, .inl rfl⟩, by omega, ?_⟩
      rw [dif_neg hm]
      rfl
  · have hpos : (@unpackExponent Format.binary32 x.toBits.toBitVec).toNat ≠ 0 :=
      fun h => hsub (BitVec.eq_of_toNat_eq h)
    have himplicit : (1#1 ++ @unpackMantissa Format.binary32 x.toBits.toBitVec).toNat =
        2 ^ 23 + x.toBits.toNat % 2 ^ 23 := by
      rw [BitVec.toNat_append, ← Nat.shiftLeft_add_eq_or_of_lt (BitVec.isLt _), hman]
      rfl
    refine .inr ⟨x.toBits.toNat / 2 ^ 23 % 2 ^ 8 - 1,
      (1#1 ++ @unpackMantissa Format.binary32 x.toBits.toBitVec).toNat,
      ⟨by omega, by omega, .inr (by omega)⟩, by omega, ?_⟩
    rw [if_neg hsub]
    congr 1
    simp only [Nat.cast_ofNat]
    omega

theorem pack_unpack_toModel (x : Float32) : Float32.ofModel (.pack x.toModel.unpack) = x :=
  Float32.ofBits_toBits x

theorem eq_ofModel_pack {x : Float32} {u : UnpackedFloat} (hx : x.toModel.unpack = u) :
    x = .ofModel (.pack u) := by
  rw [← hx, pack_unpack_toModel]

theorem units_eq {x : Float32} {s m : Nat} (hms : Canonical m s)
    (hmag : magnitude x = s * 2 ^ 23 + m) : units x = (sign x).apply (m * 2 ^ s : Nat) := by
  unfold units sign
  rw [hmag, hms.value_eq]
  split <;> rfl

/-- A canonical form is packed into its pattern. -/
theorem ofModel_pack_finite {m s : Nat} (hms : Canonical m s)
    (hb : s * 2 ^ 23 + m < BinaryFormat.single.top) (negative : Bool) :
    Float32.ofModel (.pack (.finite (if negative then .negative else .positive) m
      ((s : Int) - 149) hms.pos)) = ofPattern negative (s * 2 ^ 23 + m) := by
  have hmag := magnitude_ofPattern negative hb.le
  have hsign : sign (ofPattern negative (s * 2 ^ 23 + m)) =
      if negative then .negative else .positive := by
    unfold sign
    rw [isNegative_ofPattern negative hb.le]
  have hpos := hms.pos
  have hlt := hms.lt
  have hleading := hms.leading
  rcases unpack_cases (isFinite_ofPattern negative hb) with ⟨h0, -⟩ | ⟨s', m', hms', hmag', hunpack⟩
  · omega
  · have hlt' := hms'.lt
    have hleading' := hms'.leading
    obtain ⟨rfl, rfl⟩ : s' = s ∧ m' = m := by omega
    rw [hsign] at hunpack
    exact (eq_ofModel_pack hunpack).symm

/-! ## Addition -/

theorem apply_mul (s : Sign) (a b : Int) : s.apply (a * b) = s.apply a * b := by
  cases s
  · exact (Int.neg_mul a b).symm
  · rfl

/-- What a number comes to that is rounded and that the format can hold. -/
theorem units_normalize {M : Int} {k b : Nat} (hb : b < BinaryFormat.single.top)
    (h : M.natAbs * 2 ^ k = BinaryFormat.single.value b) {x : Float32}
    (hx : x = .ofModel (.pack (UnpackedFloat.normalize Format.binary32 M ((k : Int) - 149)
      .positive))) :
    IsFinite x ∧ units x = M * 2 ^ k := by
  have hvalue : (BinaryFormat.single.value b : Int) = M.natAbs * 2 ^ k := by
    rw [← h]
    push_cast
    rfl
  have hround : M ≠ 0 → ∀ negative, Float32.ofModel (.pack (UnpackedFloat.round Format.binary32
      (if negative then .negative else .positive) M.natAbs ((k : Int) - 149))) =
      ofPattern negative b := by
    intro hM negative
    have hb0 : b ≠ 0 := by
      rintro rfl
      rw [BinaryFormat.value_zero] at h
      have : M.natAbs * 2 ^ k ≠ 0 := by positivity
      exact this h
    obtain ⟨s, m, rfl, hms⟩ := exists_canonical hb0
    have hexp : (k : Int) - 149 = (k : Int) - (0 : Nat) - 149 := by omega
    rw [round_eq hexp hms (h.trans hms.value_eq)]
    exact ofModel_pack_finite hms hb negative
  unfold UnpackedFloat.normalize at hx
  rcases Int.lt_trichotomy M 0 with hM | rfl | hM
  · have habs : (-M).toNat = M.natAbs := by omega
    rw [show compare M 0 = .lt from Int.compare_eq_lt.2 hM] at hx
    simp only [habs] at hx
    obtain rfl := hx.trans (hround hM.ne true)
    refine ⟨isFinite_ofPattern true hb, ?_⟩
    rw [units_ofPattern true hb.le, if_pos rfl, hvalue, ← Int.neg_mul]
    congr 1
    omega
  · have hzero : Float32.ofModel (.pack (.zero .positive)) = 0 := by decide
    obtain rfl := hx.trans hzero
    exact ⟨by decide, by rw [Int.zero_mul]; decide⟩
  · have habs : M.toNat = M.natAbs := by omega
    rw [show compare M 0 = .gt from Int.compare_eq_gt.2 hM] at hx
    simp only [habs] at hx
    obtain rfl := hx.trans (hround hM.ne' false)
    refine ⟨isFinite_ofPattern false hb, ?_⟩
    rw [units_ofPattern false hb.le, if_neg Bool.false_ne_true, hvalue]
    congr 1
    omega

theorem add_eq {x y : Float32} {u v : UnpackedFloat} (hx : x.toModel.unpack = u)
    (hy : y.toModel.unpack = v) : x + y = .ofModel (.pack (u.add Format.binary32 v)) := by
  subst hx hy
  rfl

/-- Two finite numbers are added at the smaller number of doublings. -/
theorem add_finite (sign sign' : Sign) {m m' : Nat} (s s' : Nat) (hm : 0 < m) (hm' : 0 < m') :
    UnpackedFloat.add Format.binary32 (.finite sign m ((s : Int) - 149) hm)
        (.finite sign' m' ((s' : Int) - 149) hm') =
      UnpackedFloat.normalize Format.binary32
        (sign.apply (m * 2 ^ (s - min s s') : Nat) + sign'.apply (m' * 2 ^ (s' - min s s') : Nat))
        ((min s s' : Nat) - 149 : Int) .positive := by
  have hmin : min ((s : Int) - 149) ((s' : Int) - 149) = (min s s' : Nat) - 149 := by omega
  have hshift : ((s : Int) - 149 - ((min s s' : Nat) - 149)).toNat = s - min s s' := by omega
  have hshift' : ((s' : Int) - 149 - ((min s s' : Nat) - 149)).toNat = s' - min s s' := by omega
  simp only [UnpackedFloat.add, decreaseExponent, hmin, hshift, hshift', Nat.shiftLeft_eq]

/-- **A sum is exact if it is the value of a pattern.** -/
theorem units_add {x y : Float32} (hx : IsFinite x) (hy : IsFinite y) {b : Nat}
    (hb : b < BinaryFormat.single.top)
    (h : (units x + units y).natAbs = BinaryFormat.single.value b) :
    IsFinite (x + y) ∧ units (x + y) = units x + units y := by
  rcases unpack_cases hx with ⟨hx0, hxu⟩ | ⟨s, m, hms, hxmag, hxu⟩
  · rw [units_of_magnitude_eq_zero hx0, Int.zero_add]
    rcases unpack_cases hy with ⟨hy0, hyu⟩ | ⟨s', m', hms', -, hyu⟩
    · rw [units_of_magnitude_eq_zero hy0, add_eq hxu hyu]
      cases sign x <;> cases sign y <;> exact ⟨by decide, by decide⟩
    · have hsum : x + y = y := (add_eq hxu hyu).trans (eq_ofModel_pack hyu).symm
      rw [hsum]
      exact ⟨hy, rfl⟩
  · rcases unpack_cases hy with ⟨hy0, hyu⟩ | ⟨s', m', hms', hymag, hyu⟩
    · have hsum : x + y = x := (add_eq hxu hyu).trans (eq_ofModel_pack hxu).symm
      rw [hsum, units_of_magnitude_eq_zero hy0, Int.add_zero]
      exact ⟨hx, rfl⟩
    · have hsum := add_eq hxu hyu
      rw [add_finite] at hsum
      generalize hM : (sign x).apply _ + (sign y).apply _ = M at hsum
      have hexact : units x + units y = M * 2 ^ min s s' := by
        rw [← hM, Int.add_mul, ← apply_mul, ← apply_mul, units_eq hms hxmag, units_eq hms' hymag]
        push_cast
        rw [mul_assoc, mul_assoc, ← pow_add, ← pow_add, Nat.sub_add_cancel (Nat.min_le_left s s'),
          Nat.sub_add_cancel (Nat.min_le_right s s')]
      rw [hexact]
      refine units_normalize hb ?_ hsum
      rw [← h, hexact, Int.natAbs_mul, Int.natAbs_pow]
      rfl

end Single
end SkinLayout
