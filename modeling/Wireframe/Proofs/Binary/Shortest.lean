import Wireframe.Binary.Shortest
import Wireframe.Proofs.Binary.Exact
/-!
Texts of numbers tell them apart. The decimal that is written for a number lies among the reals that
round to it, and no real rounds to two numbers of a format; positional notation gives the decimal
back, so two numbers of 32 bits with the same text are the same.
-/

namespace Wireframe.Binary

def Decimal.value (d : Decimal) : ℚ := d.digits * 10 ^ d.exponent

theorem Decimal.value_strip (fuel : Nat) (d : Decimal) : (strip fuel d).value = d.value := by
  induction fuel generalizing d with
  | zero => rfl
  | succ fuel ih =>
      rw [strip]
      split
      · rename_i trailing
        have whole : d.digits / 10 * 10 = d.digits := by omega
        have digits : ((d.digits / 10 : Nat) : ℚ) * 10 = d.digits := by exact_mod_cast whole
        rw [ih, value, value, ← digits, zpow_add_one₀ (by norm_num)]
        ring
      · rfl

namespace Interval

def unit (i : Interval) : ℚ := i.numerator / i.denominator

def Covers (i : Interval) (x : ℚ) : Prop :=
  if i.closed then i.low * i.unit ≤ x ∧ x ≤ i.high * i.unit
  else i.low * i.unit < x ∧ x < i.high * i.unit

theorem holds_iff {i : Interval} (positive : 0 < i.denominator) (digits : Nat) (exponent : Int) :
    i.holds digits exponent = true ↔ i.Covers (Decimal.value ⟨digits, exponent⟩) := by
  have bottom : (0 : ℚ) < i.denominator := by exact_mod_cast positive
  have scale : (0 : ℚ) < 10 ^ (-exponent).toNat := by positivity
  have ten : (10 : ℚ) ≠ 0 := by norm_num
  have point : Decimal.value ⟨digits, exponent⟩ * (i.denominator * 10 ^ (-exponent).toNat) =
      digits * 10 ^ exponent.toNat * i.denominator := by
    rw [Decimal.value, ← zpow_toNat ten exponent]
    ring
  have edge (n : Nat) : n * i.unit * (i.denominator * 10 ^ (-exponent).toNat) =
      n * (i.numerator * 10 ^ (-exponent).toNat) := by
    rw [unit]
    field_simp
  have factor : 0 < i.denominator * (10 : ℚ) ^ (-exponent).toNat := mul_pos bottom scale
  unfold holds Covers
  simp only [Nat.pow_eq]
  split
  · rw [decide_eq_true_iff, ← mul_le_mul_iff_of_pos_right factor,
      ← mul_le_mul_iff_of_pos_right factor (b := Decimal.value _), point, edge, edge]
    exact_mod_cast Iff.rfl
  · rw [decide_eq_true_iff, ← mul_lt_mul_iff_of_pos_right factor,
      ← mul_lt_mul_iff_of_pos_right factor (b := Decimal.value _), point, edge, edge]
    exact_mod_cast Iff.rfl

theorem candidate_holds {i : Interval} {tie : Tie} {exponent : Int} {digits : Nat}
    (found : i.candidate tie exponent = some digits) : i.holds digits exponent = true := by
  unfold candidate at found
  dsimp only at found
  split at found
  · rename_i below above
    cases found
    split
    · exact above
    · exact below
  · rename_i below _
    cases found
    exact below
  · rename_i _ above
    cases found
    exact above
  · cases found

theorem search_holds {i : Interval} {tie : Tie} {steps : Nat} {start exponent : Int}
    (low : start - steps < exponent) (high : exponent ≤ start)
    (found : (i.candidate tie exponent).isSome) :
    let d := i.search tie steps start
    i.holds d.digits d.exponent = true := by
  induction steps generalizing start with
  | zero =>
      push_cast at low
      omega
  | succ steps ih =>
      dsimp only
      rw [search]
      cases first : i.candidate tie start with
      | some digits => exact candidate_holds first
      | none =>
          have later : exponent ≠ start := by
            rintro rfl
            rw [first] at found
            cases found
          apply ih
          · push_cast at low
            omega
          · omega

/-- A grid that is no coarser than the unit has a point in the interval. -/
theorem candidate_fine {i : Interval} (some : 0 < i.numerator) (positive : 0 < i.denominator)
    (low : i.low < i.value) (high : i.value < i.high) {exponent : Int}
    (fine : (10 : ℚ) ^ exponent ≤ i.unit) (tie : Tie) :
    (i.candidate tie exponent).isSome := by
  let numerator := i.value * i.numerator * Nat.pow 10 (-exponent).toNat
  let denominator := i.denominator * Nat.pow 10 exponent.toNat
  let below := numerator / denominator
  have ten : (10 : ℚ) ≠ 0 := by norm_num
  have step : (0 : ℚ) < 10 ^ exponent := by positivity
  have bottom : (0 : ℚ) < i.denominator := by exact_mod_cast positive
  have unitPositive : 0 < i.unit := div_pos (by exact_mod_cast some) bottom
  have scale : 0 < denominator := Nat.mul_pos positive (Nat.pow_pos (by norm_num))
  have scaled : (0 : ℚ) < denominator := by exact_mod_cast scale
  have same : i.value * i.unit * denominator = numerator * 10 ^ exponent := by
    have split := zpow_toNat ten exponent
    simp only [numerator, denominator, unit, Nat.pow_eq]
    push_cast
    rw [← split]
    field_simp
  have floor : below * denominator ≤ numerator := Nat.div_mul_le_self _ _
  have ceiling : numerator < (below + 1) * denominator := by
    rw [Nat.mul_comm]
    exact Nat.lt_mul_div_succ _ scale
  have notAbove : (below : ℚ) * 10 ^ exponent ≤ i.value * i.unit := by
    rw [← mul_le_mul_iff_of_pos_right scaled, same]
    have le : (below : ℚ) * denominator ≤ numerator := by exact_mod_cast floor
    nlinarith
  have near : i.value * i.unit < (below + 1 : ℚ) * 10 ^ exponent := by
    rw [← mul_lt_mul_iff_of_pos_right scaled, same]
    have lt : (numerator : ℚ) < (below + 1) * denominator := by exact_mod_cast ceiling
    nlinarith
  -- A step is at most a unit, so the neighbour below the value lies above the low end.
  have lowest : (i.low : ℚ) + 1 ≤ i.value := by exact_mod_cast low
  have highest : (i.value : ℚ) < i.high := by exact_mod_cast high
  have above : i.low * i.unit < below * 10 ^ exponent := by nlinarith
  have beneath : below * 10 ^ exponent < i.high * i.unit := by nlinarith
  have holds : i.holds below exponent = true := by
    rw [holds_iff positive, Covers, Decimal.value]
    split
    · exact ⟨above.le, beneath.le⟩
    · exact ⟨above, beneath⟩
  unfold candidate
  dsimp only
  split
  · rfl
  · rfl
  · rfl
  · rename_i fails _
    cases holds.symm.trans fails

theorem zpow_ten_le {exponent : Int} (low : -149 ≤ exponent) (high : exponent ≤ 127) :
    (10 : ℚ) ^ (exponent * 30103 / 100000 - 1) ≤ 2 ^ exponent := by
  have table : ∀ n : Fin 277,
      Nat.pow 2 (-((n : Int) - 149)).toNat *
          Nat.pow 10 (((n : Int) - 149) * 30103 / 100000 - 1).toNat ≤
        Nat.pow 2 ((n : Int) - 149).toNat *
          Nat.pow 10 (-(((n : Int) - 149) * 30103 / 100000 - 1)).toNat := by
    decide +kernel
  have entry := table ⟨(exponent + 149).toNat, by omega⟩
  have back : ((exponent + 149).toNat : Int) - 149 = exponent := by omega
  simp only [back] at entry
  have scale : (0 : ℚ) < 2 ^ (-exponent).toNat := by positivity
  have quotient := (zpow_le_div_iff (by norm_num) _ (Nat.pow_pos two_pos) _).mpr entry
  have power : (2 : ℚ) ^ exponent = 2 ^ exponent.toNat / 2 ^ (-exponent).toNat := by
    rw [eq_div_iff scale.ne', zpow_toNat two_ne_zero]
  rw [power]
  simpa [Nat.pow_eq] using quotient

theorem log10_le {i : Interval} (some : 0 < i.value * i.numerator) (positive : 0 < i.denominator)
    (low : (2 : ℚ) ^ (-149 : Int) ≤ i.value * i.unit)
    (high : i.value * i.unit < (2 : ℚ) ^ (128 : Int)) :
    (10 : ℚ) ^ i.log10 ≤ i.value * i.unit := by
  have quotient : ((i.value * i.numerator : Nat) : ℚ) / i.denominator = i.value * i.unit := by
    rw [unit]
    push_cast
    ring
  have above : 0 < i.value * i.unit := lt_of_lt_of_le (by positivity) low
  have atLeast (exponent : Int) :
      i.denominator * Nat.pow 10 exponent.toNat ≤
        i.value * i.numerator * Nat.pow 10 (-exponent).toNat →
      (10 : ℚ) ^ exponent ≤ i.value * i.unit := by
    intro test
    have le := (zpow_le_div_iff (by norm_num : 0 < 10) _ positive exponent).mpr test
    rw [quotient] at le
    exact_mod_cast le
  unfold log10
  dsimp only
  split
  · rename_i test
    exact atLeast _ (of_decide_eq_true test)
  · split
    · rename_i test
      exact atLeast _ (of_decide_eq_true test)
    · -- The guess from the power of two is at most one too high.
      rw [log2Quotient_eq_log some positive, quotient]
      have least : -149 ≤ Int.log 2 (i.value * i.unit : ℚ) :=
        (Int.zpow_le_iff_le_log one_lt_two above).mp (by exact_mod_cast low)
      have greatest : Int.log 2 (i.value * i.unit : ℚ) < 128 :=
        (Int.lt_zpow_iff_log_lt one_lt_two above).mp (by exact_mod_cast high)
      have power : (2 : ℚ) ^ Int.log 2 (i.value * i.unit : ℚ) ≤ i.value * i.unit := by
        exact_mod_cast Int.zpow_log_le_self one_lt_two above
      exact (zpow_ten_le least (by omega)).trans power

theorem unit_around (format : Format) (significand : Nat) (exponent : Int) :
    (around format significand exponent).unit = 2 ^ (exponent - 2) := by
  have scale : (0 : ℚ) < 2 ^ (-(exponent - 2)).toNat := by positivity
  have power := zpow_toNat (two_ne_zero (α := ℚ)) (exponent - 2)
  rw [unit, around]
  simp only [Nat.pow_eq, Nat.cast_pow, Nat.cast_ofNat]
  rw [div_eq_iff scale.ne', power]

section

variable {format : Format} {significand other : Nat} {exponent otherExponent : Int} {x : ℚ}

theorem Covers.within {i : Interval} (covers : i.Covers x) :
    i.low * i.unit ≤ x ∧ x ≤ i.high * i.unit := by
  unfold Covers at covers
  split at covers
  · exact covers
  · exact ⟨covers.1.le, covers.2.le⟩

theorem Covers.strict (covers : (around format significand exponent).Covers x)
    (odd : significand % 2 = 1) :
    (around format significand exponent).low * (2 : ℚ) ^ (exponent - 2) < x ∧
      x < (4 * significand + 2) * (2 : ℚ) ^ (exponent - 2) := by
  have opened : ¬ (around format significand exponent).closed = true := by
    simp [around, odd]
  rw [Covers, if_neg opened, unit_around] at covers
  exact_mod_cast covers

theorem low_around (format : Format) (some : 0 < significand) (exponent : Int) :
    (4 * significand - 2 : ℚ) ≤ (around format significand exponent).low := by
  have low : 4 * significand ≤ (around format significand exponent).low + 2 := by
    unfold around
    dsimp only
    split <;> omega
  have cast : (4 * significand : ℚ) ≤ (around format significand exponent).low + 2 := by
    exact_mod_cast low
  linarith

theorem low_around_power (above : format.unitExponent < exponent) :
    ((around format (2 ^ format.fractionBits) exponent).low : ℚ) =
      4 * 2 ^ format.fractionBits - 1 := by
  have some : 0 < 2 ^ format.fractionBits := Nat.two_pow_pos _
  have low : (around format (2 ^ format.fractionBits) exponent).low + 1 =
      4 * 2 ^ format.fractionBits := by
    unfold around
    simp only [Nat.pow_eq, above, and_self, if_true]
    omega
  have cast : ((around format (2 ^ format.fractionBits) exponent).low : ℚ) + 1 =
      4 * 2 ^ format.fractionBits := by
    exact_mod_cast low
  linarith

theorem covers_same_exponent (some : 0 < other)
    (first : (around format significand exponent).Covers x)
    (second : (around format other exponent).Covers x) : other ≤ significand := by
  have unit : (0 : ℚ) < 2 ^ (exponent - 2) := by positivity
  have high := first.within.2
  have low := second.within.1
  rw [unit_around] at high low
  have least := low_around format some exponent
  by_contra above
  rcases Nat.lt_or_ge (significand + 1) other with far | near
  · have gap : (significand : ℚ) + 2 ≤ other := by exact_mod_cast far
    simp only [around] at high
    push_cast at high
    nlinarith
  · -- Of two neighbours one is odd, and its ends do not belong to it.
    have next : other = significand + 1 := by omega
    have cast : (other : ℚ) = significand + 1 := by exact_mod_cast next
    simp only [around] at high
    push_cast at high
    rcases Nat.mod_two_eq_zero_or_one significand with even | odd
    · have strict := (second.strict (by omega)).1
      nlinarith
    · have strict := (first.strict odd).2
      nlinarith

theorem covers_exponent_le (has : format.Has significand exponent)
    (hasOther : format.Has other otherExponent)
    (first : (around format significand exponent).Covers x)
    (second : (around format other otherExponent).Covers x) : otherExponent ≤ exponent := by
  by_contra above
  have above : exponent < otherExponent := not_le.mp above
  have positive : (0 : ℚ) < 2 ^ (exponent - 2) := by positivity
  have twice : (2 : ℚ) * 2 ^ (exponent - 2) ≤ 2 ^ (otherExponent - 2) := by
    rw [mul_comm, ← zpow_add_one₀ two_ne_zero]
    exact zpow_le_zpow_right₀ one_le_two (by omega)
  have normal : format.unitExponent < otherExponent := lt_of_le_of_lt has.least above
  have full : 2 ^ format.fractionBits ≤ other := by
    rcases hasOther.full with least | full
    · omega
    · exact full
  have short := has.short
  rw [Nat.pow_succ] at short
  -- The greatest number of an exponent ends below the least one of the next.
  have high : x < (4 * (2 ^ format.fractionBits * 2) - 2) * (2 : ℚ) ^ (exponent - 2) := by
    rcases Nat.mod_two_eq_zero_or_one significand with even | odd
    · have room : significand + 2 ≤ 2 ^ format.fractionBits * 2 := by omega
      have cast : (significand : ℚ) + 2 ≤ 2 ^ format.fractionBits * 2 := by exact_mod_cast room
      have within := first.within.2
      rw [unit_around] at within
      simp only [around] at within
      push_cast at within
      nlinarith
    · have cast : (significand : ℚ) + 1 ≤ 2 ^ format.fractionBits * 2 := by exact_mod_cast short
      have strict := (first.strict odd).2
      nlinarith
  have low := second.within.1
  rw [unit_around] at low
  have bound : (4 * 2 ^ format.fractionBits - 1 : ℚ) ≤
      (around format other otherExponent).low := by
    rcases full.eq_or_lt with power | beyond
    · rw [← power, low_around_power normal]
    · have cast : (2 : ℚ) ^ format.fractionBits + 1 ≤ other := by exact_mod_cast beyond
      have least := low_around format (by omega : 0 < other) otherExponent
      linarith
  have large : (1 : ℚ) ≤ 2 ^ format.fractionBits := one_le_pow₀ one_le_two
  nlinarith

/-- No real rounds to two numbers of a format. -/
theorem covers_unique (some : 0 < significand) (someOther : 0 < other)
    (has : format.Has significand exponent) (hasOther : format.Has other otherExponent)
    (first : (around format significand exponent).Covers x)
    (second : (around format other otherExponent).Covers x) :
    significand = other ∧ exponent = otherExponent := by
  have same : exponent = otherExponent :=
    le_antisymm (covers_exponent_le hasOther has second first)
      (covers_exponent_le has hasOther first second)
  subst same
  exact ⟨le_antisymm (covers_same_exponent some second first)
    (covers_same_exponent someOther first second), rfl⟩

end

theorem value_around (format : Format) (significand : Nat) (exponent : Int) :
    ((around format significand exponent).value : ℚ) *
      (around format significand exponent).unit = significand * 2 ^ exponent := by
  rw [unit_around, zpow_sub₀ two_ne_zero]
  simp only [around]
  push_cast
  ring

section

variable {significand : Nat} {exponent : Int} (some : 0 < significand)
  (has : single.Has significand exponent)

include some has

theorem log10_around :
    (10 : ℚ) ^ (around single significand exponent).log10 ≤ significand * 2 ^ exponent := by
  have first : (1 : ℚ) ≤ significand := by exact_mod_cast some
  have short : (significand : ℚ) < 2 ^ 24 := by exact_mod_cast has.short
  have step : (0 : ℚ) < 2 ^ exponent := by positivity
  have least : (-149 : Int) ≤ exponent := has.least
  have finite : (exponent - (-149)).toNat + 2 < 256 := has.finite
  have low : (2 : ℚ) ^ (-149 : Int) ≤ significand * 2 ^ exponent := by
    have bound : (2 : ℚ) ^ (-149 : Int) ≤ 2 ^ exponent := zpow_le_zpow_right₀ one_le_two least
    nlinarith
  have high : (significand : ℚ) * 2 ^ exponent < (2 : ℚ) ^ (128 : Int) := by
    have bound : (2 : ℚ) ^ exponent ≤ 2 ^ (104 : Int) :=
      zpow_le_zpow_right₀ one_le_two (by omega)
    calc (significand : ℚ) * 2 ^ exponent
      _ < 2 ^ 24 * 2 ^ exponent := mul_lt_mul_of_pos_right short step
      _ ≤ 2 ^ 24 * 2 ^ (104 : Int) := mul_le_mul_of_nonneg_left bound (by norm_num)
      _ = 2 ^ (128 : Int) := by norm_num
  rw [← value_around single] at low high ⊢
  exact log10_le (Nat.mul_pos (Nat.mul_pos four_pos some) (Nat.pow_pos two_pos))
    (Nat.pow_pos two_pos) low high

/-- Seventeen digits make a grid that is finer than the interval. -/
theorem grid_around :
    (10 : ℚ) ^ ((around single significand exponent).log10 - 16) ≤
      (around single significand exponent).unit := by
  have log := log10_around some has
  rw [← value_around single] at log
  have sixteen : (10 : ℚ) ^ ((around single significand exponent).log10 - 16) * 10 ^ 16 =
      10 ^ (around single significand exponent).log10 := by
    rw [← zpow_natCast, ← zpow_add₀ (by norm_num)]
    congr 1
    omega
  have short : (significand : ℚ) < 2 ^ 24 := by exact_mod_cast has.short
  have wide : ((around single significand exponent).value : ℚ) < 10 ^ 16 := by
    simp only [around]
    push_cast
    linarith
  have positive : 0 < (around single significand exponent).unit := by
    rw [unit_around]
    positivity
  nlinarith

end

end Interval

/-- The decimal that is written for a number of 32 bits rounds to it. -/
theorem covers_shortest {significand : Nat} {exponent : Int} (some : 0 < significand)
    (has : single.Has significand exponent) (tie : Tie) :
    (Interval.around single significand exponent).Covers
      (shortest single tie significand exponent).value := by
  let i := Interval.around single significand exponent
  have denominator : 0 < i.denominator := Nat.pow_pos two_pos
  have low : i.low < i.value := by
    simp only [i, Interval.around]
    split <;> omega
  have found := Interval.candidate_fine (Nat.pow_pos two_pos) denominator low
    (Nat.lt_add_of_pos_right two_pos) (Interval.grid_around some has) tie
  have below : i.log10 - (17 : Nat) < i.log10 - 16 := by omega
  have holds := Interval.search_holds below (by omega) found
  dsimp only at holds
  rw [Interval.holds_iff denominator] at holds
  rw [shortest, Decimal.value_strip]
  exact holds

end Wireframe.Binary
