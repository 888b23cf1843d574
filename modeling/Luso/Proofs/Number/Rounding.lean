import Luso.Number.Binary64

/-!
# Rounding and order

Rounding to 53 significant binary digits never crosses a number that has no more digits than that.
This alone tells what is left of a rounded result after its fraction is cut off.
-/

namespace Luso

attribute [local instance] naturalPower

theorem le_roundHalfEven_of_mul_le {value numerator denominator : Nat} (positive : 0 < denominator)
    (below : value * denominator ≤ numerator) : value ≤ roundHalfEven numerator denominator :=
  Nat.le_trans ((Nat.le_div_iff_mul_le positive).mpr below) (le_roundHalfEven _ _)

theorem roundHalfEven_le_of_le_mul {value numerator denominator : Nat} (positive : 0 < denominator)
    (above : numerator ≤ value * denominator) : roundHalfEven numerator denominator ≤ value := by
  rcases Nat.eq_or_lt_of_le above with equal | less
  · exact Nat.le_of_eq (by rw [equal, roundHalfEven_mul_right _ _ positive])
  · exact Nat.le_trans (roundHalfEven_le _ _) ((Nat.div_lt_iff_lt_mul positive).mpr less)

/-- A greater quotient is not rounded to a smaller number. -/
theorem roundHalfEven_mono {numerator numerator' : Nat} (denominator : Nat)
    (ordered : numerator ≤ numerator') :
    roundHalfEven numerator denominator ≤ roundHalfEven numerator' denominator := by
  rcases Nat.eq_or_lt_of_le (Nat.div_le_div_right (c := denominator) ordered) with same | less
  · have split := Nat.div_add_mod numerator denominator
    have split' := Nat.div_add_mod numerator' denominator
    rw [same] at split
    simp only [roundHalfEven, same]
    repeat' split
    all_goals omega
  · calc roundHalfEven numerator denominator
        ≤ numerator / denominator + 1 := roundHalfEven_le _ _
      _ ≤ numerator' / denominator := less
      _ ≤ roundHalfEven numerator' denominator := le_roundHalfEven _ _

namespace Binary64

/-- A number of quanta with at most 53 significant binary digits, whether in range or not. -/
def Short (quanta : Nat) : Prop :=
  ∃ significand shift : Nat, significand ≤ 2 ^ (fractionBits + 1) ∧ quanta = significand * 2 ^ shift

theorem short_units {units : Nat} (bound : units ≤ 2 ^ (fractionBits + 1)) :
    Short (units * quantaPerUnit) :=
  ⟨units, places, bound, rfl⟩

/-- A short number ends in zeros, or it is smaller than all numbers that are cut off there. -/
theorem Short.dvd_or_lt {quanta : Nat} (short : Short quanta) (excess : Nat) :
    2 ^ excess ∣ quanta ∨ (0 < excess ∧ quanta < 2 ^ fractionBits * 2 ^ excess) := by
  obtain ⟨significand, shift, bound, rfl⟩ := short
  by_cases reaches : excess ≤ shift
  · exact .inl (Nat.dvd_trans (Nat.pow_dvd_pow 2 reaches) (Nat.dvd_mul_left _ _))
  · have upper : significand * 2 ^ shift ≤ 2 ^ fractionBits * 2 ^ excess := by
      calc significand * 2 ^ shift
          ≤ 2 ^ (fractionBits + 1) * 2 ^ shift := Nat.mul_le_mul_right _ bound
        _ = 2 ^ (fractionBits + (shift + 1)) := by rw [← Nat.pow_add, Nat.add_assoc, Nat.add_comm 1]
        _ ≤ 2 ^ (fractionBits + excess) := Nat.pow_le_pow_right Nat.two_pos (by omega)
        _ = 2 ^ fractionBits * 2 ^ excess := Nat.pow_add 2 _ _
    rcases Nat.eq_or_lt_of_le upper with equal | less
    · exact .inl (equal ▸ Nat.dvd_mul_left _ _)
    · exact .inr ⟨by omega, less⟩

theorem le_of_excessBits_pos {quanta : Nat} (excess : 0 < excessBits quanta) :
    2 ^ fractionBits * 2 ^ excessBits quanta ≤ quanta := by
  have log_eq : fractionBits + excessBits quanta = quanta.log2 := by
    simp only [excessBits] at excess ⊢
    omega
  have nonzero : quanta ≠ 0 := by
    rintro rfl
    simp [excessBits] at excess
  rw [← Nat.pow_add, log_eq]
  exact Nat.log2_self_le nonzero

theorem excessBits_mono {quanta quanta' : Nat} (ordered : quanta ≤ quanta') :
    excessBits quanta ≤ excessBits quanta' := by
  refine Nat.sub_le_sub_right ?_ _
  by_cases zero : quanta = 0
  · rw [zero]
    exact Nat.zero_le _
  · exact (Nat.le_log2 (by omega)).mpr (Nat.le_trans (Nat.log2_self_le zero) ordered)

section Order

variable {quanta numerator denominator : Nat}

/-- Rounding does not fall below a short number that the ratio is not below. -/
theorem le_roundRatio (short : Short quanta) (positive : 0 < denominator)
    (below : quanta * denominator ≤ numerator) : quanta ≤ roundRatio numerator denominator := by
  rw [roundRatio]
  generalize scale_eq : 2 ^ excessBits (numerator / denominator) = scale
  have scale_pos : 0 < scale := scale_eq ▸ Nat.two_pow_pos _
  rcases short.dvd_or_lt (excessBits (numerator / denominator)) with ⟨digits, rfl⟩ | ⟨excess, less⟩
  · rw [scale_eq] at below ⊢
    rw [Nat.mul_comm scale digits] at below ⊢
    refine Nat.mul_le_mul_right scale (le_roundHalfEven_of_mul_le
      (Nat.mul_pos positive scale_pos) ?_)
    rwa [Nat.mul_comm denominator, ← Nat.mul_assoc]
  · have reached := le_of_excessBits_pos excess
    rw [scale_eq] at less reached
    refine Nat.le_trans (Nat.le_of_lt less) (Nat.mul_le_mul_right scale
      (le_roundHalfEven_of_mul_le (Nat.mul_pos positive scale_pos) ?_))
    rw [Nat.mul_comm denominator, ← Nat.mul_assoc]
    exact (Nat.le_div_iff_mul_le positive).mp reached

/-- Rounding does not exceed a short number that the ratio does not exceed. -/
theorem roundRatio_le (short : Short quanta) (positive : 0 < denominator)
    (above : numerator ≤ quanta * denominator) : roundRatio numerator denominator ≤ quanta := by
  have whole_le : numerator / denominator ≤ quanta :=
    Nat.div_le_of_le_mul (by rwa [Nat.mul_comm denominator])
  rw [roundRatio]
  generalize scale_eq : 2 ^ excessBits (numerator / denominator) = scale
  have scale_pos : 0 < scale := scale_eq ▸ Nat.two_pow_pos _
  rcases short.dvd_or_lt (excessBits (numerator / denominator)) with ⟨digits, rfl⟩ | ⟨excess, less⟩
  · rw [scale_eq] at above ⊢
    rw [Nat.mul_comm scale digits] at above ⊢
    refine Nat.mul_le_mul_right scale (roundHalfEven_le_of_le_mul
      (Nat.mul_pos positive scale_pos) ?_)
    rwa [Nat.mul_comm denominator, ← Nat.mul_assoc]
  · have reached := le_of_excessBits_pos excess
    omega

theorem Short.roundRatio_mul_right (short : Short quanta) (positive : 0 < denominator) :
    roundRatio (quanta * denominator) denominator = quanta :=
  Nat.le_antisymm (roundRatio_le short positive (Nat.le_refl _))
    (le_roundRatio short positive (Nat.le_refl _))

/-- A greater ratio is not rounded to a smaller number. -/
theorem roundRatio_mono {numerator' : Nat} (positive : 0 < denominator)
    (ordered : numerator ≤ numerator') :
    roundRatio numerator denominator ≤ roundRatio numerator' denominator := by
  have whole_le : numerator / denominator ≤ numerator' / denominator :=
    Nat.div_le_div_right ordered
  have excess_le : excessBits (numerator / denominator) ≤ excessBits (numerator' / denominator) :=
    excessBits_mono whole_le
  rcases Nat.eq_or_lt_of_le excess_le with same | less
  · rw [roundRatio, roundRatio, same]
    exact Nat.mul_le_mul_right _ (roundHalfEven_mono _ ordered)
  · -- A number with fewer binary digits lies between the two ratios.
    let between := 2 ^ fractionBits * 2 ^ excessBits (numerator' / denominator)
    have short : Short between := ⟨_, _, Nat.pow_le_pow_right Nat.two_pos (Nat.le_succ _), rfl⟩
    have below : numerator / denominator < between := by
      calc numerator / denominator
          < 2 ^ (fractionBits + 1) * 2 ^ excessBits (numerator / denominator) :=
            lt_two_pow_excessBits _
        _ = 2 ^ fractionBits * 2 ^ (excessBits (numerator / denominator) + 1) := by
            rw [← Nat.pow_add, ← Nat.pow_add, Nat.add_right_comm, Nat.add_assoc]
        _ ≤ between := Nat.mul_le_mul_left _ (Nat.pow_le_pow_right Nat.two_pos less)
    have above : between ≤ numerator' / denominator :=
      le_of_excessBits_pos (Nat.zero_lt_of_lt less)
    exact Nat.le_trans
      (roundRatio_le short positive (Nat.le_of_lt ((Nat.div_lt_iff_lt_mul positive).mp below)))
      (le_roundRatio short positive ((Nat.le_div_iff_mul_le positive).mp above))

end Order

/-! ## Whole units -/

/-- The whole units in a rounded ratio of quanta. -/
def wholeUnits (numerator denominator : Nat) : Nat :=
  roundRatio numerator denominator / quantaPerUnit

theorem le_wholeUnits {units numerator denominator : Nat}
    (bound : units ≤ 2 ^ (fractionBits + 1)) (positive : 0 < denominator)
    (below : units * quantaPerUnit * denominator ≤ numerator) :
    units ≤ wholeUnits numerator denominator :=
  (Nat.le_div_iff_mul_le quantaPerUnit_pos).mpr (le_roundRatio (short_units bound) positive below)

/-- A whole number is met exactly as long as it has at most 53 digits. -/
theorem wholeUnits_mul_right {units denominator : Nat} (bound : units ≤ 2 ^ (fractionBits + 1))
    (positive : 0 < denominator) :
    wholeUnits (units * quantaPerUnit * denominator) denominator = units := by
  rw [wholeUnits, (short_units bound).roundRatio_mul_right positive,
    Nat.mul_div_cancel _ quantaPerUnit_pos]

/-- A greater whole number is rounded to one that is as great at least as all with 53 digits. -/
theorem le_wholeUnits_mul_right {units denominator : Nat} (excess : 2 ^ (fractionBits + 1) ≤ units)
    (positive : 0 < denominator) :
    2 ^ (fractionBits + 1) ≤ wholeUnits (units * quantaPerUnit * denominator) denominator :=
  le_wholeUnits (Nat.le_refl _) positive
    (Nat.mul_le_mul_right _ (Nat.mul_le_mul_right _ excess))

/-- Between a quotient of whole numbers and the next whole number lies a short number. -/
theorem exists_short_between {dividend divisor : Nat} (positive : 0 < divisor)
    (bound : 2 * (dividend + divisor) ≤ 2 ^ (fractionBits + 1)) :
    ∃ quanta, Short quanta ∧ dividend * quantaPerUnit ≤ quanta * divisor ∧
      quanta < (dividend / divisor + 1) * quantaPerUnit := by
  -- The fraction has as many binary digits as the divisor, and they are all ones.
  let fraction := divisor.log2 + 1
  have divisor_lt : divisor < 2 ^ fraction := Nat.lt_log2_self
  have le_twice_divisor : 2 ^ fraction ≤ 2 * divisor := by
    rw [Nat.pow_succ, Nat.mul_comm]
    exact Nat.mul_le_mul_left 2 (Nat.log2_self_le (by omega))
  have fits : fraction ≤ places := by
    have in_bound : divisor < 2 ^ (fractionBits + 1) := by omega
    have log_lt := (Nat.log2_lt (by omega)).mpr in_bound
    simp only [fraction, places, fractionBits] at log_lt ⊢
    omega
  have unit_eq : quantaPerUnit = 2 ^ fraction * 2 ^ (places - fraction) := by
    rw [← Nat.pow_add, Nat.add_sub_cancel' fits, quantaPerUnit]
  have next_le : (dividend / divisor + 1) * divisor ≤ dividend + divisor := by
    rw [Nat.add_mul, Nat.one_mul]
    exact Nat.add_le_add_right (Nat.div_mul_le_self _ _) _
  have lt_next : dividend + 1 ≤ (dividend / divisor + 1) * divisor :=
    Nat.lt_mul_of_div_lt (Nat.lt_succ_self _) positive
  have digits_bound : (dividend / divisor + 1) * 2 ^ fraction ≤ 2 ^ (fractionBits + 1) := by
    calc (dividend / divisor + 1) * 2 ^ fraction
        ≤ (dividend / divisor + 1) * (2 * divisor) := Nat.mul_le_mul_left _ le_twice_divisor
      _ = 2 * ((dividend / divisor + 1) * divisor) := Nat.mul_left_comm _ _ _
      _ ≤ 2 * (dividend + divisor) := Nat.mul_le_mul_left 2 next_le
      _ ≤ 2 ^ (fractionBits + 1) := bound
  refine ⟨((dividend / divisor + 1) * 2 ^ fraction - 1) * 2 ^ (places - fraction),
    ⟨_, _, by omega, rfl⟩, ?_, ?_⟩
  · rw [Nat.sub_mul, Nat.sub_mul, Nat.one_mul]
    refine Nat.le_sub_of_add_le ?_
    calc dividend * quantaPerUnit + 2 ^ (places - fraction) * divisor
        ≤ dividend * quantaPerUnit + quantaPerUnit := by
          rw [unit_eq, Nat.mul_comm (2 ^ fraction)]
          exact Nat.add_le_add_left (Nat.mul_le_mul_left _ (Nat.le_of_lt divisor_lt)) _
      _ = (dividend + 1) * quantaPerUnit := (Nat.succ_mul _ _).symm
      _ ≤ (dividend / divisor + 1) * divisor * quantaPerUnit := Nat.mul_le_mul_right _ lt_next
      _ = (dividend / divisor + 1) * 2 ^ fraction * 2 ^ (places - fraction) * divisor := by
          rw [unit_eq, Nat.mul_right_comm _ divisor, ← Nat.mul_assoc]
  · rw [unit_eq, ← Nat.mul_assoc]
    refine Nat.mul_lt_mul_of_pos_right (Nat.sub_one_lt ?_) (Nat.two_pow_pos _)
    exact Nat.ne_of_gt (Nat.mul_pos (Nat.succ_pos _) (Nat.two_pow_pos _))

/-- A quotient of whole numbers that is no whole number stays away from the next one by more than
rounding can move it. -/
theorem wholeUnits_quotient {dividend divisor : Nat} (positive : 0 < divisor)
    (bound : 2 * (dividend + divisor) ≤ 2 ^ (fractionBits + 1)) :
    wholeUnits (dividend * quantaPerUnit * quantaPerUnit) (divisor * quantaPerUnit) =
      dividend / divisor := by
  have denominator_pos := Nat.mul_pos positive quantaPerUnit_pos
  have quotient_le : dividend / divisor ≤ dividend := Nat.div_le_self _ _
  refine Nat.le_antisymm ?_ (le_wholeUnits (by omega) denominator_pos ?_)
  · obtain ⟨quanta, short, above, less⟩ := exists_short_between positive bound
    have rounded : roundRatio (dividend * quantaPerUnit * quantaPerUnit)
        (divisor * quantaPerUnit) ≤ quanta := by
      refine roundRatio_le short denominator_pos ?_
      rw [← Nat.mul_assoc]
      exact Nat.mul_le_mul_right _ above
    exact Nat.le_of_lt_succ ((Nat.div_lt_iff_lt_mul quantaPerUnit_pos).mpr
      (Nat.lt_of_le_of_lt rounded less))
  · calc dividend / divisor * quantaPerUnit * (divisor * quantaPerUnit)
        = dividend / divisor * divisor * (quantaPerUnit * quantaPerUnit) :=
          Nat.mul_mul_mul_comm _ _ _ _
      _ ≤ dividend * (quantaPerUnit * quantaPerUnit) :=
          Nat.mul_le_mul_right _ (Nat.div_mul_le_self _ _)
      _ = dividend * quantaPerUnit * quantaPerUnit := (Nat.mul_assoc _ _ _).symm

end Binary64
end Luso
