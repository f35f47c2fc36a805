import Wireframe.Proofs.Binary.Pattern

namespace Wireframe.Binary

theorem zpow_toNat {base : ℚ} (nonzero : base ≠ 0) (exponent : Int) :
    base ^ exponent * base ^ (-exponent).toNat = base ^ exponent.toNat := by
  rw [← zpow_natCast, ← zpow_natCast, ← zpow_add₀ nonzero]
  congr 1
  omega

theorem log_eq {value : ℚ} {exponent : Int} (low : 2 ^ exponent ≤ value)
    (high : value < 2 ^ (exponent + 1)) : Int.log 2 value = exponent := by
  have positive : 0 < value := lt_of_lt_of_le (zpow_pos two_pos _) low
  have le := (Int.zpow_le_iff_le_log one_lt_two positive).mp (by exact_mod_cast low)
  have lt := (Int.lt_zpow_iff_log_lt one_lt_two positive).mp (by exact_mod_cast high)
  omega

theorem zpow_le_div_iff {base : Nat} (above : 0 < base) (numerator : Nat) {denominator : Nat}
    (positive : 0 < denominator) (exponent : Int) :
    (base : ℚ) ^ exponent ≤ numerator / denominator ↔
      denominator * Nat.pow base exponent.toNat ≤ numerator * Nat.pow base (-exponent).toNat := by
  have bottom : (0 : ℚ) < base := by exact_mod_cast above
  have scale : (0 : ℚ) < base ^ (-exponent).toNat := by positivity
  rw [le_div_iff₀ (by exact_mod_cast positive), ← mul_le_mul_iff_of_pos_right scale]
  have left : (base : ℚ) ^ exponent * denominator * base ^ (-exponent).toNat =
      denominator * base ^ exponent.toNat := by
    rw [← zpow_toNat bottom.ne' exponent]
    ring
  rw [left, Nat.pow_eq, Nat.pow_eq]
  exact_mod_cast Iff.rfl

theorem zpow_two_le_div_iff (numerator : Nat) {denominator : Nat} (positive : 0 < denominator)
    (exponent : Int) :
    (2 : ℚ) ^ exponent ≤ numerator / denominator ↔
      denominator * Nat.pow 2 exponent.toNat ≤ numerator * Nat.pow 2 (-exponent).toNat := by
  simpa using zpow_le_div_iff two_pos numerator positive exponent

theorem log2Quotient_eq_log {numerator denominator : Nat} (above : 0 < numerator)
    (below : 0 < denominator) :
    log2Quotient numerator denominator = Int.log 2 ((numerator : ℚ) / denominator) := by
  have bounds {n : Nat} (positive : 0 < n) :
      (2 : ℚ) ^ (n.log2 : Int) ≤ n ∧ (n : ℚ) < 2 ^ ((n.log2 : Int) + 1) := by
    have range := (Nat.log2_eq_iff positive.ne').mp rfl
    rw [← Nat.cast_succ, zpow_natCast, zpow_natCast]
    exact_mod_cast range
  obtain ⟨numeratorLow, numeratorHigh⟩ := bounds above
  obtain ⟨denominatorLow, denominatorHigh⟩ := bounds below
  have positive : (0 : ℚ) < denominator := by exact_mod_cast below
  unfold log2Quotient
  dsimp only
  -- The lengths of the two numbers leave two exponents to choose from.
  split
  · rename_i test
    refine (log_eq ((zpow_two_le_div_iff numerator below _).mpr test) ?_).symm
    rw [div_lt_iff₀ positive]
    calc (numerator : ℚ)
      _ < 2 ^ ((numerator.log2 : Int) + 1) := numeratorHigh
      _ = 2 ^ ((numerator.log2 : Int) - denominator.log2 + 1) * 2 ^ (denominator.log2 : Int) := by
        rw [← zpow_add₀ two_ne_zero]
        congr 1
        omega
      _ ≤ 2 ^ ((numerator.log2 : Int) - denominator.log2 + 1) * denominator :=
        mul_le_mul_of_nonneg_left denominatorLow (zpow_pos two_pos _).le
  · rename_i test
    refine (log_eq ?_ ?_).symm
    · rw [le_div_iff₀ positive]
      calc (2 : ℚ) ^ ((numerator.log2 : Int) - denominator.log2 - 1) * denominator
        _ ≤ 2 ^ ((numerator.log2 : Int) - denominator.log2 - 1) *
            2 ^ ((denominator.log2 : Int) + 1) :=
          mul_le_mul_of_nonneg_left denominatorHigh.le (zpow_pos two_pos _).le
        _ = 2 ^ (numerator.log2 : Int) := by
          rw [← zpow_add₀ two_ne_zero]
          congr 1
          omega
        _ ≤ numerator := numeratorLow
    · rw [sub_add_cancel]
      exact lt_of_not_ge fun le => test ((zpow_two_le_div_iff numerator below _).mp le)

theorem log_mul_zpow {significand : Nat} (positive : 0 < significand) (exponent : Int) :
    Int.log 2 ((significand : ℚ) * 2 ^ exponent) = significand.log2 + exponent := by
  obtain ⟨low, high⟩ := (Nat.log2_eq_iff positive.ne').mp rfl
  have scale : (0 : ℚ) < 2 ^ exponent := zpow_pos two_pos _
  apply log_eq
  · rw [zpow_add₀ two_ne_zero, zpow_natCast]
    exact mul_le_mul_of_nonneg_right (by exact_mod_cast low) scale.le
  · rw [add_right_comm, zpow_add₀ two_ne_zero, ← Nat.cast_succ, zpow_natCast]
    exact mul_lt_mul_of_pos_right (by exact_mod_cast high) scale

theorem roundToEven_mul (quotient : Nat) {denominator : Nat} (positive : 0 < denominator) :
    roundToEven (quotient * denominator) denominator = quotient := by
  simp [roundToEven, Nat.mul_div_cancel _ positive, positive]

namespace Format

/-- The format has the number: its significand fits, and it is as great as it can be unless the
exponent is the least one. -/
structure Has (format : Format) (significand : Nat) (exponent : Int) : Prop where
  short : significand < 2 ^ (format.fractionBits + 1)
  least : format.unitExponent ≤ exponent
  full : exponent = format.unitExponent ∨ 2 ^ format.fractionBits ≤ significand
  finite : (exponent - format.unitExponent).toNat + 2 < 2 ^ format.exponentBits

def pattern (format : Format) (significand : Nat) (exponent : Int) : Nat :=
  (exponent - format.unitExponent).toNat * 2 ^ format.fractionBits + significand

variable {format : Format} {significand : Nat} {exponent : Int}

theorem Has.pattern_lt (has : format.Has significand exponent) :
    format.pattern significand exponent < format.infinityBits := by
  have short := has.short
  have finite := has.finite
  rw [Nat.pow_succ] at short
  rw [pattern, infinityBits, Nat.pow_eq, Nat.pow_eq]
  calc (exponent - format.unitExponent).toNat * 2 ^ format.fractionBits + significand
    _ < (exponent - format.unitExponent).toNat * 2 ^ format.fractionBits +
        2 ^ format.fractionBits * 2 := by omega
    _ = ((exponent - format.unitExponent).toNat + 2) * 2 ^ format.fractionBits := by ring
    _ ≤ (2 ^ format.exponentBits - 1) * 2 ^ format.fractionBits :=
      Nat.mul_le_mul_right _ (by omega)

/-- Rounding a number that the format has gives its pattern. -/
theorem Has.round_eq (has : format.Has significand exponent) {numerator denominator : Nat}
    (positive : 0 < denominator)
    (value : (numerator : ℚ) / denominator = significand * 2 ^ exponent) :
    format.round numerator denominator = format.pattern significand exponent := by
  have bottom : (0 : ℚ) < denominator := by exact_mod_cast positive
  have least := has.least
  rcases Nat.eq_zero_or_pos significand with rfl | some
  · have none : numerator = 0 := by
      rw [Nat.cast_zero, zero_mul, div_eq_zero_iff] at value
      exact_mod_cast value.resolve_right bottom.ne'
    have first : exponent = format.unitExponent := by
      rcases has.full with first | full
      · exact first
      · exact absurd full (Nat.not_le.mpr (Nat.two_pow_pos _))
    rw [round, if_pos none, pattern, first]
    simp
  · have above : 0 < numerator := by
      have quotient : (0 : ℚ) < numerator / denominator := by
        rw [value]
        exact mul_pos (by exact_mod_cast some) (zpow_pos two_pos _)
      rw [div_pos_iff_of_pos_right bottom] at quotient
      exact_mod_cast quotient
    -- The least exponent is taken where the significand is too short for its own.
    have chosen : max (log2Quotient numerator denominator - format.fractionBits)
        format.unitExponent = exponent := by
      rw [log2Quotient_eq_log above positive, value, log_mul_zpow some]
      have short := (Nat.log2_lt some.ne').mpr has.short
      rcases has.full with first | full
      · omega
      · have long := (Nat.le_log2 some.ne').mpr full
        omega
    have exact : numerator * Nat.pow 2 (-exponent).toNat =
        significand * (denominator * Nat.pow 2 exponent.toNat) := by
      rw [div_eq_iff bottom.ne'] at value
      have scaled : (numerator : ℚ) * 2 ^ (-exponent).toNat =
          significand * (denominator * 2 ^ exponent.toNat) := by
        rw [value, ← zpow_toNat two_ne_zero exponent]
        ring
      rw [Nat.pow_eq, Nat.pow_eq]
      exact_mod_cast scaled
    rw [round, if_neg above.ne', chosen]
    dsimp only
    have scaled : 0 < denominator * Nat.pow 2 exponent.toNat :=
      Nat.mul_pos positive (Nat.two_pow_pos _)
    rw [exact, roundToEven_mul significand scaled]
    exact Nat.min_eq_left has.pattern_lt.le

theorem decode_signed (negative : Bool) {bits : Nat} (unsigned : bits < format.infinityBits) :
    format.decode ((if negative then format.signBit else 0) + bits) =
      if bits / 2 ^ format.fractionBits = 0 then
        .finite negative (bits % 2 ^ format.fractionBits) format.unitExponent
      else
        .finite negative (2 ^ format.fractionBits + bits % 2 ^ format.fractionBits)
          (format.unitExponent + (bits / 2 ^ format.fractionBits : Nat) - 1) := by
  have some : 0 < 2 ^ format.fractionBits := Nat.two_pow_pos _
  have fields : 0 < 2 ^ format.exponentBits := Nat.two_pow_pos _
  have field : bits / 2 ^ format.fractionBits < 2 ^ format.exponentBits - 1 :=
    Nat.div_lt_of_lt_mul (by rwa [Nat.mul_comm])
  have size : format.signBit = 2 ^ format.fractionBits * 2 ^ format.exponentBits :=
    Nat.pow_add 2 _ _
  have inside : bits / format.signBit = 0 := by
    rw [size, ← Nat.div_div_eq_div_mul]
    exact Nat.div_eq_of_lt (by omega)
  have sign : decide (((if negative then format.signBit else 0) + bits) / format.signBit % 2 = 1) =
      negative := by
    have positive : 0 < format.signBit := by
      rw [size]
      exact Nat.mul_pos some fields
    cases negative with
    | false => simp [inside]
    | true => simp [Nat.add_div_left, positive, inside]
  have shifted (negative : Bool) :
      ((if negative then format.signBit else 0) + bits) / 2 ^ format.fractionBits %
        2 ^ format.exponentBits = bits / 2 ^ format.fractionBits := by
    have less : bits / 2 ^ format.fractionBits < 2 ^ format.exponentBits := by omega
    cases negative with
    | false => simp [Nat.mod_eq_of_lt less]
    | true => simp [size, Nat.mul_add_div some, Nat.mod_eq_of_lt less]
  have fraction : ((if negative then format.signBit else 0) + bits) % 2 ^ format.fractionBits =
      bits % 2 ^ format.fractionBits := by
    cases negative with
    | false => simp
    | true => simp [size]
  simp only [decode, Nat.pow_eq, sign, shifted, fraction, if_neg field.ne]

theorem Has.decode_eq (has : format.Has significand exponent) (negative : Bool) :
    format.decode ((if negative then format.signBit else 0) + format.pattern significand exponent) =
      .finite negative significand exponent := by
  have least := has.least
  have short := has.short
  rw [decode_signed negative has.pattern_lt, pattern]
  rw [Nat.pow_succ] at short
  rcases Nat.lt_or_ge significand (2 ^ format.fractionBits) with small | large
  · have first : exponent = format.unitExponent := has.full.resolve_right (Nat.not_le.mpr small)
    rw [first, sub_self, Int.toNat_zero, Nat.zero_mul, Nat.zero_add, Nat.div_eq_of_lt small,
      Nat.mod_eq_of_lt small, if_pos rfl]
  · obtain ⟨fraction, rfl⟩ := Nat.exists_eq_add_of_le large
    have inside : fraction < 2 ^ format.fractionBits := by omega
    have parts : (exponent - format.unitExponent).toNat * 2 ^ format.fractionBits +
        (2 ^ format.fractionBits + fraction) =
        fraction + 2 ^ format.fractionBits * ((exponent - format.unitExponent).toNat + 1) := by
      ring
    rw [parts, Nat.add_mul_div_left _ _ (Nat.two_pow_pos _), Nat.div_eq_of_lt inside,
      Nat.add_mul_mod_self_left, Nat.mod_eq_of_lt inside, if_neg (by omega)]
    congr 1
    omega

theorem Has.shift (positive : 0 < significand)
    (short : significand < 2 ^ (format.fractionBits + 1))
    (low : format.unitExponent ≤ exponent + significand.log2 - format.fractionBits)
    (high : exponent + significand.log2 - format.fractionBits + 2 <
      format.unitExponent + (2 ^ format.exponentBits : Nat)) :
    ∃ shifted lower, format.Has shifted lower ∧
      (shifted : ℚ) * 2 ^ lower = significand * 2 ^ exponent := by
  obtain ⟨least, most⟩ := (Nat.log2_eq_iff positive.ne').mp rfl
  have fits := (Nat.log2_lt positive.ne').mpr short
  obtain ⟨gap, reach⟩ := Nat.exists_eq_add_of_le (Nat.lt_succ_iff.mp fits)
  have lengthened : 2 ^ format.fractionBits = 2 ^ significand.log2 * 2 ^ gap := by
    rw [reach, Nat.pow_add]
  refine ⟨significand * 2 ^ gap, exponent - gap, ⟨?_, ?_, Or.inr ?_, ?_⟩, ?_⟩
  · rw [Nat.pow_succ, lengthened]
    rw [Nat.pow_succ] at most
    calc significand * 2 ^ gap
      _ < 2 ^ significand.log2 * 2 * 2 ^ gap := Nat.mul_lt_mul_of_pos_right most (Nat.two_pow_pos _)
      _ = 2 ^ significand.log2 * 2 ^ gap * 2 := by ring
  · omega
  · rw [lengthened]
    exact Nat.mul_le_mul_right _ least
  · omega
  · rw [zpow_sub₀ two_ne_zero, zpow_natCast]
    push_cast
    field_simp

theorem Has.encodeDatum_eq (has : format.Has significand exponent) (negative : Bool)
    {other : Nat} {otherExponent : Int}
    (same : (other : ℚ) * 2 ^ otherExponent = significand * 2 ^ exponent) :
    format.encodeDatum (.finite negative other otherExponent) =
      (if negative then format.signBit else 0) + format.pattern significand exponent := by
  have value : ((other * 2 ^ otherExponent.toNat : Nat) : ℚ) / (2 ^ (-otherExponent).toNat : Nat) =
      significand * 2 ^ exponent := by
    rw [← same, div_eq_iff (by positivity)]
    push_cast
    rw [← zpow_toNat two_ne_zero otherExponent]
    ring
  exact congrArg _ (has.round_eq (Nat.two_pow_pos _) value)

theorem parts_eq {bits : Nat} (within : bits < 2 * format.signBit) :
    bits = (if decide (bits / format.signBit % 2 = 1) then format.signBit else 0) +
      (bits / 2 ^ format.fractionBits % 2 ^ format.exponentBits * 2 ^ format.fractionBits +
        bits % 2 ^ format.fractionBits) := by
  have size : format.signBit = 2 ^ format.fractionBits * 2 ^ format.exponentBits :=
    Nat.pow_add 2 _ _
  have sign : (if decide (bits / format.signBit % 2 = 1) then format.signBit else 0) =
      bits / format.signBit * format.signBit := by
    have top : bits / format.signBit < 2 := Nat.div_lt_of_lt_mul (by rwa [Nat.mul_comm])
    rcases Nat.lt_succ_iff.mp top |>.lt_or_eq with low | high
    · simp [Nat.lt_one_iff.mp low]
    · simp [high]
  rw [sign, size, ← Nat.div_div_eq_div_mul]
  generalize 2 ^ format.fractionBits = unit
  generalize 2 ^ format.exponentBits = fields
  have outer := Nat.div_add_mod' (bits / unit) fields
  have inner := Nat.div_add_mod' bits unit
  calc bits
    _ = (bits / unit / fields * fields + bits / unit % fields) * unit + bits % unit := by
      rw [outer, inner]
    _ = bits / unit / fields * (unit * fields) + (bits / unit % fields * unit + bits % unit) := by
      ring

theorem decode_finite {bits : Nat} {negative : Bool} (within : bits < 2 * format.signBit)
    (wide : 2 < 2 ^ format.exponentBits)
    (decoded : format.decode bits = .finite negative significand exponent) :
    format.Has significand exponent ∧
      bits = (if negative then format.signBit else 0) + format.pattern significand exponent := by
  have parts := parts_eq within
  have fraction : bits % 2 ^ format.fractionBits < 2 ^ format.fractionBits :=
    Nat.mod_lt _ (Nat.two_pow_pos _)
  have field : bits / 2 ^ format.fractionBits % 2 ^ format.exponentBits < 2 ^ format.exponentBits :=
    Nat.mod_lt _ (Nat.two_pow_pos _)
  simp only [decode, Nat.pow_eq] at decoded
  split at decoded
  · split at decoded <;> cases decoded
  · rename_i inside
    split at decoded
    · rename_i first
      cases decoded
      refine ⟨⟨?_, le_refl _, Or.inl rfl, ?_⟩, ?_⟩
      · rw [Nat.pow_succ]
        omega
      · simpa using wide
      · rw [first, Nat.zero_mul, Nat.zero_add] at parts
        simpa [pattern] using parts
    · rename_i later
      cases decoded
      refine ⟨⟨?_, ?_, Or.inr (Nat.le_add_right _ _), ?_⟩, ?_⟩
      · rw [Nat.pow_succ]
        omega
      · omega
      · omega
      · obtain ⟨step, next⟩ := Nat.exists_eq_succ_of_ne_zero later
        have place : (format.unitExponent + (step.succ : Nat) - 1 - format.unitExponent).toNat =
            step := by
          omega
        rw [next] at parts ⊢
        rw [Nat.succ_mul, Nat.add_assoc (step * _)] at parts
        rwa [pattern, place]

theorem decode_infinite {bits : Nat} {negative : Bool} (within : bits < 2 * format.signBit)
    (decoded : format.decode bits = .infinite negative) :
    bits = (if negative then format.signBit else 0) + format.infinityBits := by
  have parts := parts_eq within
  simp only [decode, Nat.pow_eq] at decoded
  split at decoded
  · rename_i last
    split at decoded
    · rename_i clean
      cases decoded
      rwa [last, clean, Nat.add_zero] at parts
    · cases decoded
  · split at decoded <;> cases decoded

end Format

theorem decodeDouble_ofBits {bits : Nat} (within : bits < 2 ^ 64)
    (number : double.decode bits ≠ .nan) :
    decodeDouble (Float.ofBits (UInt64.ofNat bits)) = double.decode bits := by
  have kept : (UInt64.ofNat bits).toBitVec.toNat = bits := UInt64.toNat_ofNat_of_lt' within
  have valid : Float.Model.Format.binary64.Valid (UInt64.ofNat bits).toBitVec :=
    valid_of_decode (by rwa [kept])
  rw [decodeDouble, toBits_ofBits valid]
  exact congrArg double.decode kept

theorem Format.Has.decodeDouble_eq {significand : Nat} {exponent : Int}
    (has : double.Has significand exponent) (negative : Bool) :
    decodeDouble (Float.ofBits (UInt64.ofNat
      ((if negative then double.signBit else 0) + double.pattern significand exponent))) =
      .finite negative significand exponent := by
  have decoded := has.decode_eq negative
  have within : (if negative then double.signBit else 0) + double.pattern significand exponent <
      2 ^ 64 := by
    have below : double.pattern significand exponent < 2 ^ 63 :=
      Nat.lt_trans has.pattern_lt (by decide)
    have sign : (if negative then double.signBit else 0) ≤ 2 ^ 63 := by
      cases negative <;> decide
    omega
  rw [decodeDouble_ofBits within (by simp [decoded]), decoded]

theorem Format.Has.widens {significand : Nat} {exponent : Int}
    (has : single.Has significand exponent) :
    ∃ longer lower, double.Has longer lower ∧
      (longer : ℚ) * 2 ^ lower = significand * 2 ^ exponent := by
  have least : -149 ≤ exponent := has.least
  have most : exponent + 149 + 2 < 256 := by
    have finite : (exponent - -149).toNat + 2 < 256 := has.finite
    omega
  rcases Nat.eq_zero_or_pos significand with rfl | positive
  · refine ⟨0, -1074, ⟨by decide, by decide, Or.inl (by decide), by decide⟩, by simp⟩
  · have fits : significand.log2 < 24 := (Nat.log2_lt positive.ne').mpr has.short
    apply Format.Has.shift positive
    · exact Nat.lt_trans has.short (by decide)
    · change (-1074 : Int) ≤ exponent + significand.log2 - 52
      omega
    · change exponent + significand.log2 - 52 + 2 < (-1074 : Int) + 2048
      omega

theorem single_has {n : Nat} (small : n ≤ 2 ^ 24) :
    ∃ significand exponent, single.Has significand exponent ∧
      (significand : ℚ) * 2 ^ exponent = n := by
  rcases Nat.eq_zero_or_pos n with rfl | positive
  · exact ⟨0, -149, ⟨by decide, by decide, Or.inl (by decide), by decide⟩, by simp⟩
  · rcases small.lt_or_eq with short | rfl
    · have fits : n.log2 < 24 := (Nat.log2_lt positive.ne').mpr short
      obtain ⟨significand, exponent, has, same⟩ : ∃ significand exponent,
          single.Has significand exponent ∧
            (significand : ℚ) * 2 ^ exponent = n * 2 ^ (0 : Int) := by
        apply Format.Has.shift positive short
        · change (-149 : Int) ≤ 0 + n.log2 - 23
          omega
        · change 0 + (n.log2 : Int) - 23 + 2 < (-149 : Int) + 256
          omega
      exact ⟨significand, exponent, has, by simpa using same⟩
    · refine ⟨2 ^ 23, 1, ⟨by decide, by decide, Or.inr (by decide), by decide⟩, ?_⟩
      norm_num

/-- An integer of up to 24 bits is rounded to the same number of 32 bits by way of 64 bits. -/
theorem narrow_doubleOfInt {n : Int} (small : n.natAbs ≤ 2 ^ 24) :
    narrow (doubleOfInt n) = singleOfInt n := by
  obtain ⟨significand, exponent, has, value⟩ := single_has small
  obtain ⟨longer, lower, hasLonger, same⟩ := has.widens
  have whole : ((n.natAbs : Nat) : ℚ) / (1 : Nat) = significand * 2 ^ exponent := by
    rw [value, Nat.cast_one, div_one]
  have wholeLonger : ((n.natAbs : Nat) : ℚ) / (1 : Nat) = longer * 2 ^ lower :=
    whole.trans same.symm
  rw [narrow, doubleOfInt, Format.encode, hasLonger.round_eq one_pos wholeLonger]
  rw [hasLonger.decodeDouble_eq, has.encodeDatum_eq _ same, singleOfInt, toSingle, Format.encode,
    has.round_eq one_pos whole]

/-- A number of 32 bits comes back from 64 bits. -/
theorem narrow_widen (x : Float32) : narrow (widen x) = x := by
  have within : x.toBits.toNat < 2 * single.signBit := x.toBits.toNat_lt
  have wide : 2 < 2 ^ single.exponentBits := by decide
  have back : Float32.ofBits (UInt32.ofNat x.toBits.toNat) = x := by
    rw [UInt32.ofNat_toNat, Float32.ofBits_toBits]
  cases decoded : decodeSingle x with
  | finite negative significand exponent =>
      obtain ⟨has, bits⟩ := Format.decode_finite within wide decoded
      obtain ⟨longer, lower, hasLonger, same⟩ := has.widens
      rw [narrow, widen, decoded, hasLonger.encodeDatum_eq negative same.symm,
        hasLonger.decodeDouble_eq, has.encodeDatum_eq negative same, ← bits, back]
  | infinite negative =>
      have bits := Format.decode_infinite within decoded
      have kept : decodeDouble (Float.ofBits (UInt64.ofNat
          (double.encodeDatum (.infinite negative)))) = .infinite negative := by
        cases negative <;> decide +kernel
      rw [narrow, widen, decoded, kept, Format.encodeDatum, ← bits, back]
  | nan =>
      -- Of the patterns for what is no number a value has only the one that rounding gives.
      have canonical : x.toBits.toBitVec = Float.Model.UnpackedFloat.packedNaN .binary32 :=
        eq_packedNaN x.toModel.valid decoded
      have made : narrow (Float.ofBits (UInt64.ofNat (double.encodeDatum .nan))) =
          Float32.ofBits ⟨Float.Model.UnpackedFloat.packedNaN .binary32⟩ := by
        decide +kernel
      rw [widen, decoded, made, ← canonical, Float32.ofBits_toBits]

def Datum.value : Datum → ℚ
  | .finite negative significand exponent =>
      (if negative then -1 else 1) * (significand * 2 ^ exponent)
  | .infinite _ | .nan => 0

def exact (x : Float32) : ℚ := (decodeSingle x).value

theorem exact_nonneg {x : Float32} {significand : Nat} {exponent : Int}
    (decoded : decodeSingle x = .finite false significand exponent) : 0 ≤ exact x := by
  rw [exact, decoded, Datum.value, if_neg Bool.false_ne_true, one_mul]
  positivity

end Wireframe.Binary
