import Luso.Proofs.Number.ReadBack
import Luso.Proofs.Number.Rounding

/-!
# Numbers that are written without an exponent

The shortest decimals of double-precision numbers are ordered as the numbers are.  So whether a number
is written with an exponent can be told from the number itself: it is if the number is infinite, less
than `10 ^ -4` but not zero, or `10 ^ 16` at least.
-/

namespace Luso

attribute [local instance] naturalPower

/-! ## The order of shortest decimals -/

theorem Binary64.roundRatio_eq_quanta {negative negative' : Bool} {numerator denominator : Nat}
    {magnitude : Magnitude}
    (read : ofRatio negative numerator denominator = .finite negative' magnitude) :
    roundRatio numerator denominator = magnitude.quanta := by
  rw [ofRatio] at read
  split at read
  · obtain ⟨-, rfl⟩ := Binary64.finite.inj read
    rfl
  · cases read

/-- A greater decimal is not read as a smaller number. -/
theorem Decimal.quanta_le_of_value_le {first second : Decimal} {magnitude magnitude' : Magnitude}
    (read : first.toBinary64 = .finite false magnitude)
    (read' : second.toBinary64 = .finite false magnitude') (ordered : first.value ≤ second.value) :
    magnitude.quanta ≤ magnitude'.quanta := by
  obtain ⟨numerator, denominator, positive, read_eq, ratio⟩ := first.exists_toBinary64_eq
  obtain ⟨numerator', denominator', positive', read_eq', ratio'⟩ := second.exists_toBinary64_eq
  rw [← Binary64.roundRatio_eq_quanta (read_eq.symm.trans read),
    ← Binary64.roundRatio_eq_quanta (read_eq'.symm.trans read')]
  have cross : numerator * denominator' ≤ numerator' * denominator := by
    generalize Binary64.quantaPerUnit = unit at ratio ratio'
    have cross : (numerator : ℚ) * denominator' ≤ numerator' * denominator := by
      calc (numerator : ℚ) * denominator'
          = first.value * (unit * (denominator * denominator')) := by rw [ratio]; ring
        _ ≤ second.value * (unit * (denominator * denominator')) :=
            mul_le_mul_of_nonneg_right ordered (by positivity)
        _ = numerator' * denominator := by rw [ratio']; ring
    exact_mod_cast cross
  have common := Nat.mul_pos positive positive'
  calc Binary64.roundRatio numerator denominator
      = Binary64.roundRatio (numerator * denominator') (denominator * denominator') :=
        Binary64.roundRatio_congr positive common (by ring)
    _ ≤ Binary64.roundRatio (numerator' * denominator) (denominator * denominator') :=
        Binary64.roundRatio_mono common cross
    _ = Binary64.roundRatio numerator' denominator' :=
        Binary64.roundRatio_congr common positive' (by ring)

namespace Magnitude

theorem eq_of_quanta_eq {first second : Magnitude} (same : first.quanta = second.quanta) :
    first = second := by
  cases first
  cases second
  cases same
  rfl

/-- The shortest decimals are ordered as the numbers are. -/
theorem shortest_value_le_iff (first second : Magnitude) :
    first.shortest.value ≤ second.shortest.value ↔ first.quanta ≤ second.quanta := by
  constructor
  · exact Decimal.quanta_le_of_value_le first.toBinary64_shortest second.toBinary64_shortest
  · intro ordered
    by_contra less
    have less := lt_of_not_ge less
    have ordered' := Decimal.quanta_le_of_value_le second.toBinary64_shortest
      first.toBinary64_shortest less.le
    rw [eq_of_quanta_eq (Nat.le_antisymm ordered ordered')] at less
    exact lt_irrefl _ less

/-! ## The numbers at which the notation changes -/

/-- The magnitude of zero. -/
def zero : Magnitude :=
  { quanta := 0, representable := Binary64.representable_zero }

/-- The number nearest to `10 ^ -4`. -/
def leastPlain : Magnitude :=
  { quanta := Binary64.roundRatio Binary64.quantaPerUnit (10 ^ 4), representable := by decide +kernel }

/-- The number `10 ^ 16`. -/
def plainLimit : Magnitude :=
  { quanta := 10 ^ 16 * Binary64.quantaPerUnit, representable := by decide +kernel }

theorem shortest_zero : zero.shortest.digits = 0 := by decide +kernel

theorem shortest_leastPlain : leastPlain.shortest = { digits := 1, exponent := -4 } := by
  decide +kernel

theorem shortest_plainLimit : plainLimit.shortest = { digits := 1, exponent := 16 } := by
  decide +kernel

/-- The number nearest to `10 ^ -4` is the least one that is not less than it. -/
theorem leastPlain_le_iff (magnitude : Magnitude) :
    leastPlain.quanta ≤ magnitude.quanta ↔ Binary64.quantaPerUnit ≤ magnitude.quanta * 10 ^ 4 := by
  have reached : Binary64.quantaPerUnit ≤ leastPlain.quanta * 10 ^ 4 := by decide +kernel
  constructor
  · exact fun ordered => Nat.le_trans reached (Nat.mul_le_mul_right _ ordered)
  · intro ordered
    have positive : 0 < 10 ^ 4 := Nat.pow_pos (by decide)
    calc leastPlain.quanta
        ≤ Binary64.roundRatio (magnitude.quanta * 10 ^ 4) (10 ^ 4) :=
          Binary64.roundRatio_mono positive ordered
      _ = magnitude.quanta :=
          Binary64.roundRatio_mul_right _ _ positive magnitude.representable

end Magnitude

/-! ## The decimal point -/

namespace Decimal

/-- The place of the decimal point tells between which powers of ten the number lies. -/
theorem ten_zpow_le_value_iff {decimal : Decimal} (nonzero : decimal.digits ≠ 0) (power : Int) :
    (10 : ℚ) ^ power ≤ decimal.value ↔ power < decimal.point := by
  have shifted : (10 : ℚ) ^ power ≤ decimal.value ↔
      (10 : ℚ) ^ (power - decimal.exponent) ≤ decimal.digits := by
    rw [value, zpow_sub₀ (by norm_num), div_le_iff₀ (zpow_pos (by norm_num) _)]
  have digits_pos : 0 < (Nat.toDigits 10 decimal.digits).length :=
    List.length_pos_iff.mpr Nat.toDigits_ne_nil
  rw [shifted, point]
  by_cases few : power - decimal.exponent < 0
  · have one_le : (1 : ℚ) ≤ decimal.digits := by exact_mod_cast Nat.one_le_iff_ne_zero.mpr nonzero
    have le_one : (10 : ℚ) ^ (power - decimal.exponent) ≤ 1 :=
      zpow_le_one_of_nonpos₀ (by norm_num) few.le
    exact ⟨fun _ => by omega, fun _ => le_one.trans one_le⟩
  · obtain ⟨count, count_eq⟩ := Int.eq_ofNat_of_zero_le (Int.not_lt.mp few)
    rw [count_eq, ← cast_ten_pow, Nat.cast_le, ← Nat.not_lt]
    by_cases none : count = 0
    · rw [none, Nat.pow_zero]
      omega
    · rw [← Nat.length_toDigits_le_iff (by decide) (Nat.pos_of_ne_zero none)]
      omega

end Decimal

/-! ## Which numbers are written how -/

/-- A number that is zero, or not less than `10 ^ -4` and less than `10 ^ 16`. -/
def Binary64.IsModerate : Binary64 → Prop
  | .finite _ magnitude =>
      magnitude.quanta = 0 ∨
        quantaPerUnit ≤ magnitude.quanta * 10 ^ 4 ∧ magnitude.quanta < 10 ^ 16 * quantaPerUnit
  | .infinite _ | .nan => False

instance : DecidablePred Binary64.IsModerate := fun value =>
  match value with
  | .finite _ _ => inferInstanceAs (Decidable (_ ∨ _))
  | .infinite _ | .nan => isFalse id

namespace Magnitude

variable {magnitude : Magnitude} {negative : Bool}

theorem digits_shortest_eq_zero_iff (magnitude : Magnitude) :
    magnitude.shortest.digits = 0 ↔ magnitude.quanta = 0 := by
  have value_zero := zero.shortest.value_eq_zero_iff.mpr shortest_zero
  constructor
  · intro nothing
    have value_eq := magnitude.shortest.value_eq_zero_iff.mpr nothing
    have ordered := (shortest_value_le_iff magnitude zero).mp (value_eq.trans value_zero.symm).le
    exact Nat.le_zero.mp ordered
  · intro nothing
    rw [show magnitude = zero from eq_of_quanta_eq nothing, shortest_zero]

/-- The decimal point stands where no exponent is needed exactly if the number is neither too small nor
too great. -/
theorem point_shortest_iff (nonzero : magnitude.shortest.digits ≠ 0) :
    (Decimal.leastPlainPoint ≤ magnitude.shortest.point ∧
        magnitude.shortest.point ≤ Decimal.greatestPlainPoint) ↔
      Binary64.quantaPerUnit ≤ magnitude.quanta * 10 ^ 4 ∧
        magnitude.quanta < 10 ^ 16 * Binary64.quantaPerUnit := by
  have least : -4 < magnitude.shortest.point ↔ leastPlain.quanta ≤ magnitude.quanta := by
    rw [← Decimal.ten_zpow_le_value_iff nonzero, ← shortest_value_le_iff, shortest_leastPlain]
    simp [Decimal.value]
  have limit : 16 < magnitude.shortest.point ↔ plainLimit.quanta ≤ magnitude.quanta := by
    rw [← Decimal.ten_zpow_le_value_iff nonzero, ← shortest_value_le_iff, shortest_plainLimit]
    simp [Decimal.value]
  have limit : magnitude.shortest.point ≤ 16 ↔ magnitude.quanta < plainLimit.quanta := by
    rw [← Int.not_lt, limit, Nat.not_le]
  have noneBelow : Decimal.leastPlainPoint ≤ magnitude.shortest.point ↔
      -4 < magnitude.shortest.point := by
    rw [Decimal.leastPlainPoint]
    omega
  rw [← leastPlain_le_iff, ← least, ← noneBelow]
  exact and_congr_right fun _ => limit

/-- The last digit of the shortest decimal is none behind the last one of the exact decimal. -/
theorem neg_places_le_exponent_shortest (magnitude : Magnitude) :
    -(Binary64.places : Int) ≤ magnitude.shortest.exponent := by
  rw [shortest]
  cases found : (List.range sufficientDigits).findSome? (fun count => magnitude.nearestWithout
      ((Nat.toDigits 10 magnitude.exactDecimal.digits).length - (count + 1))) with
  | none => exact Int.le_refl _
  | some decimal =>
      obtain ⟨count, -, hit⟩ := List.exists_of_findSome?_eq_some found
      have member := List.mem_of_find?_eq_some hit
      have exponent_eq : ∃ dropped : Nat, decimal.exponent = -Binary64.places + dropped := by
        rw [neighbours] at member
        split at member
        all_goals
          simp only [List.mem_cons, List.not_mem_nil, or_false] at member
          rcases member with rfl | rfl
        all_goals exact ⟨_, rfl⟩
      obtain ⟨dropped, exponent_eq⟩ := exponent_eq
      rw [Option.getD_some, exponent_eq]
      omega

/-- A number that is not moderate is written with an exponent. -/
theorem write_of_not_isModerate (immoderate : ¬(Binary64.finite negative magnitude).IsModerate) :
    ∃ digits exponent, magnitude.shortest.write = Decimal.writeScientific digits exponent ∧
      digits ≠ [] ∧ (∀ character ∈ digits, character.isDigit = true) ∧
      -(Binary64.places : Int) ≤ exponent := by
  obtain ⟨notZero, outOfRange⟩ := not_or.mp immoderate
  have nonzero := mt magnitude.digits_shortest_eq_zero_iff.mp notZero
  rw [Decimal.write_eq, if_neg nonzero, if_neg (mt (point_shortest_iff nonzero).mp outOfRange)]
  refine ⟨_, _, rfl, mt magnitude.shortest.significant_eq_nil_iff.mp nonzero,
    magnitude.shortest.isDigit_significant, ?_⟩
  have lowest := magnitude.neg_places_le_exponent_shortest
  have digits_pos : 0 < (Nat.toDigits 10 magnitude.shortest.digits).length :=
    List.length_pos_iff.mpr Nat.toDigits_ne_nil
  rw [Decimal.point]
  omega

end Magnitude
end Luso
