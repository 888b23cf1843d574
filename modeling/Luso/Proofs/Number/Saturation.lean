import Luso.Proofs.Number.Rounding
import Luso.Semantics.Value
import Mathlib.Algebra.Ring.Int.Defs

/-!
# Saturating integers

An operation on two integers is carried out in double precision and cut back to 32 bits.  Its result
is the exact one, or the end of the range on that side.
-/

namespace Luso

attribute [local instance] naturalPower

/-- The integer of 32 bits that is nearest to an integer. -/
def saturate (value : Int) : Int :=
  max (-2147483648) (min value 2147483647)

/-- The exact result of an operation on integers.  A quotient loses its fraction. -/
def Arithmetic.exact : Arithmetic → Int → Int → Int
  | .add, left, right => left + right
  | .subtract, left, right => left - right
  | .multiply, left, right => left * right
  | .divide, left, right => left.tdiv right

theorem toInt_ofIntClamp (value : Int) : (Int32.ofIntClamp value).toInt = saturate value := by
  have least := Int32.toInt_minValue
  have greatest := Int32.toInt_maxValue
  rw [saturate, Int32.ofIntClamp]
  split
  · split
    · rw [Int32.toInt_ofIntLE]
      omega
    · omega
  · omega

/-- A natural number with a sign. -/
def signed (negative : Bool) (size : Nat) : Int :=
  if negative then -size else size

@[simp]
theorem signed_false (size : Nat) : signed false size = size := rfl

@[simp]
theorem signed_true (size : Nat) : signed true size = -size := rfl

@[simp]
theorem natAbs_signed (negative : Bool) (size : Nat) : (signed negative size).natAbs = size := by
  cases negative <;> simp

theorem signed_not (negative : Bool) (size : Nat) :
    signed (!negative) size = -signed negative size := by
  cases negative <;> simp

theorem signed_add (negative : Bool) (size size' : Nat) :
    signed negative (size + size') = signed negative size + signed negative size' := by
  cases negative <;> simp only [signed_false, signed_true] <;> omega

theorem signed_sub (negative : Bool) {size size' : Nat} (ordered : size' ≤ size) :
    signed negative (size - size') = signed negative size - signed negative size' := by
  cases negative <;> simp only [signed_false, signed_true] <;> omega

theorem signed_xor_mul (negative negative' : Bool) (size size' : Nat) :
    signed (negative ^^ negative') (size * size') =
      signed negative size * signed negative' size' := by
  cases negative <;> cases negative' <;> simp

theorem signed_xor_div (negative negative' : Bool) (size size' : Nat) :
    signed (negative ^^ negative') (size / size') =
      (signed negative size).tdiv (signed negative' size') := by
  cases negative <;> cases negative' <;> simp

theorem ofIntClamp_signed_of_le {size : Nat} (negative : Bool) (great : 2147483648 ≤ size) :
    Int32.ofIntClamp (signed negative size) =
      if negative then Int32.minValue else Int32.maxValue := by
  have least := Int32.toInt_minValue
  have greatest := Int32.toInt_maxValue
  apply Int32.toInt.inj
  rw [toInt_ofIntClamp, saturate]
  cases negative with
  | false =>
      simp only [signed_false, Bool.false_eq_true, if_false]
      omega
  | true =>
      simp only [signed_true, if_true]
      omega

namespace Binary64

/-- A rounded ratio is cut off to its whole units, with its sign. -/
theorem toInt32_ofRatio (negative : Bool) (numerator denominator : Nat) :
    (ofRatio negative numerator denominator).toInt32 =
      Int32.ofIntClamp (signed negative (wholeUnits numerator denominator)) := by
  rw [ofRatio]
  split
  · rfl
  · rename_i outOfRange
    have great : 2147483648 ≤ wholeUnits numerator denominator := by
      have limit_eq : quantaLimit = 2 ^ (rangeBits - places) * quantaPerUnit := by
        rw [quantaPerUnit, ← Nat.pow_add, quantaLimit,
          Nat.sub_add_cancel (by decide : places ≤ rangeBits)]
      have reaches : 2147483648 ≤ 2 ^ (rangeBits - places) := by decide +kernel
      refine Nat.le_trans reaches ?_
      rw [wholeUnits, Nat.le_div_iff_mul_le quantaPerUnit_pos, ← limit_eq]
      exact Nat.le_of_not_lt outOfRange
    rw [ofIntClamp_signed_of_le negative great]
    rfl

theorem toInt32_ofRatio_units (negative : Bool) {units : Nat}
    (bound : units ≤ 2 ^ (fractionBits + 1)) :
    (ofRatio negative (units * quantaPerUnit) 1).toInt32 =
      Int32.ofIntClamp (signed negative units) := by
  have whole := wholeUnits_mul_right bound Nat.one_pos
  rw [Nat.mul_one] at whole
  rw [toInt32_ofRatio, whole]

/-- A double-precision number that is the given integer.  Zero may have either sign. -/
inductive IsInteger : Binary64 → Int → Prop
  /-- Its quanta make up whole units. -/
  | finite (negative : Bool) (magnitude : Magnitude) (units : Nat)
      (quanta_eq : magnitude.quanta = units * quantaPerUnit) :
      IsInteger (.finite negative magnitude) (signed negative units)

theorem short_units_lt {units : Nat} (bound : units ≤ 2 ^ (fractionBits + 1)) :
    units * quantaPerUnit < quantaLimit := by
  have reaches : fractionBits + 1 + places < rangeBits := by decide
  calc units * quantaPerUnit
      ≤ 2 ^ (fractionBits + 1) * quantaPerUnit := Nat.mul_le_mul_right _ bound
    _ = 2 ^ (fractionBits + 1 + places) := by rw [quantaPerUnit, ← Nat.pow_add]
    _ < 2 ^ rangeBits := Nat.pow_lt_pow_right Nat.one_lt_two reaches
    _ = quantaLimit := by rw [quantaLimit]

theorem isInteger_ofInt {value : Int} (bound : value.natAbs ≤ 2 ^ (fractionBits + 1)) :
    IsInteger (ofInt value) value := by
  have rounded := (short_units bound).roundRatio_mul_right Nat.one_pos
  rw [Nat.mul_one] at rounded
  have value_eq : signed (value < 0) value.natAbs = value := by
    by_cases negative : value < 0
    · simp only [negative, decide_true, signed_true]
      omega
    · simp only [negative, decide_false, signed_false]
      omega
  have inRange : roundRatio (value.natAbs * quantaPerUnit) 1 < quantaLimit := by
    rw [rounded]
    exact short_units_lt bound
  have whole := IsInteger.finite (value < 0)
    { quanta := roundRatio (value.natAbs * quantaPerUnit) 1
      representable := ⟨inRange, two_pow_excessBits_dvd_roundRatio _ 1⟩ } value.natAbs rounded
  rw [value_eq] at whole
  rw [ofInt, ofRatio, dif_pos inRange]
  exact whole

theorem IsInteger.negate {number : Binary64} {value : Int} (whole : IsInteger number value) :
    IsInteger number.negate (-value) := by
  obtain ⟨negative, magnitude, units, quanta_eq⟩ := whole
  rw [← signed_not]
  exact .finite (!negative) magnitude units quanta_eq

theorem IsInteger.isZero_iff {number : Binary64} {value : Int} (whole : IsInteger number value) :
    number.isZero = true ↔ value = 0 := by
  obtain ⟨negative, magnitude, units, quanta_eq⟩ := whole
  have quanta_zero : units * quantaPerUnit = 0 ↔ units = 0 := by
    rw [Nat.mul_eq_zero, or_iff_left (Nat.ne_of_gt quantaPerUnit_pos)]
  cases negative <;> simp [isZero, quanta_eq, quanta_zero]

theorem toInt32_zero : (zero false).toInt32 = Int32.ofIntClamp 0 := by
  simp [zero, toInt32]

section Operations

variable {number number' : Binary64} {value value' : Int}

/-- A sum of integers with at most 53 digits is met exactly. -/
theorem toInt32_add (whole : IsInteger number value) (whole' : IsInteger number' value')
    (bound : value.natAbs + value'.natAbs ≤ 2 ^ (fractionBits + 1)) :
    (add number number').toInt32 = Int32.ofIntClamp (value + value') := by
  obtain ⟨negative, magnitude, units, quanta_eq⟩ := whole
  obtain ⟨negative', magnitude', units', quanta_eq'⟩ := whole'
  rw [natAbs_signed, natAbs_signed] at bound
  simp only [add, quanta_eq, quanta_eq', Nat.mul_right_cancel_iff quantaPerUnit_pos,
    Nat.mul_lt_mul_right quantaPerUnit_pos, ← Nat.add_mul, ← Nat.sub_mul]
  by_cases same : negative = negative'
  · rw [if_pos same, toInt32_ofRatio_units negative bound, signed_add, same]
  · obtain rfl : negative' = !negative := by
      cases negative <;> cases negative' <;> simp_all
    rw [if_neg same, signed_not, ← Int.sub_eq_add_neg]
    rcases Nat.lt_trichotomy units units' with less | rfl | greater
    · rw [if_neg (Nat.ne_of_lt less), if_neg (Nat.lt_asymm less),
        toInt32_ofRatio_units _ (by omega), signed_not, signed_sub negative (Nat.le_of_lt less),
        Int.neg_sub]
    · rw [if_pos rfl, Int.sub_self, toInt32_zero]
    · rw [if_neg (Nat.ne_of_gt greater), if_pos greater, toInt32_ofRatio_units _ (by omega),
        signed_sub negative (Nat.le_of_lt greater)]

theorem toInt32_sub (whole : IsInteger number value) (whole' : IsInteger number' value')
    (bound : value.natAbs + value'.natAbs ≤ 2 ^ (fractionBits + 1)) :
    (sub number number').toInt32 = Int32.ofIntClamp (value - value') := by
  rw [sub, toInt32_add whole whole'.negate (by rwa [Int.natAbs_neg]), Int.sub_eq_add_neg]

/-- A product is met exactly, or both it and what it is rounded to are out of range. -/
theorem toInt32_mul (whole : IsInteger number value) (whole' : IsInteger number' value') :
    (mul number number').toInt32 = Int32.ofIntClamp (value * value') := by
  obtain ⟨negative, magnitude, units, quanta_eq⟩ := whole
  obtain ⟨negative', magnitude', units', quanta_eq'⟩ := whole'
  have numerator_eq : units * quantaPerUnit * (units' * quantaPerUnit) =
      units * units' * quantaPerUnit * quantaPerUnit := by
    rw [Nat.mul_mul_mul_comm, Nat.mul_assoc (units * units')]
  rw [mul, quanta_eq, quanta_eq', numerator_eq, toInt32_ofRatio, ← signed_xor_mul]
  by_cases fits : units * units' ≤ 2 ^ (fractionBits + 1)
  · rw [wholeUnits_mul_right fits quantaPerUnit_pos]
  · have excess := Nat.le_of_not_le fits
    have reaches : 2147483648 ≤ 2 ^ (fractionBits + 1) := by decide
    rw [ofIntClamp_signed_of_le _ (Nat.le_trans reaches excess), ofIntClamp_signed_of_le _
      (Nat.le_trans reaches (le_wholeUnits_mul_right excess quantaPerUnit_pos))]

/-- A quotient is not rounded up to the next integer. -/
theorem toInt32_div (whole : IsInteger number value) (whole' : IsInteger number' value')
    (nonzero : value' ≠ 0)
    (bound : 2 * (value.natAbs + value'.natAbs) ≤ 2 ^ (fractionBits + 1)) :
    (div number number').toInt32 = Int32.ofIntClamp (value.tdiv value') := by
  obtain ⟨negative, magnitude, units, quanta_eq⟩ := whole
  obtain ⟨negative', magnitude', units', quanta_eq'⟩ := whole'
  rw [natAbs_signed, natAbs_signed] at bound
  have units_pos : 0 < units' := by
    rw [← natAbs_signed negative' units']
    exact Int.natAbs_pos.mpr nonzero
  rw [div, quanta_eq, quanta_eq', if_neg (Nat.ne_of_gt (Nat.mul_pos units_pos quantaPerUnit_pos)),
    toInt32_ofRatio, wholeUnits_quotient units_pos bound, signed_xor_div]

end Operations

end Binary64

/-- An operation on integers of 32 bits gives the exact result, brought into range. -/
theorem toInt32_apply (operation : Arithmetic) {left right : Int} (left_le : left.natAbs ≤ 2147483648)
    (right_le : right.natAbs ≤ 2147483648) (nonzero : operation = .divide → right ≠ 0) :
    (operation.apply (.ofInt left) (.ofInt right)).toInt32 =
      Int32.ofIntClamp (operation.exact left right) := by
  have reaches : 2 * (2147483648 + 2147483648) ≤ 2 ^ (Binary64.fractionBits + 1) := by decide
  have leftWhole : Binary64.IsInteger (.ofInt left) left := Binary64.isInteger_ofInt (by omega)
  have rightWhole : Binary64.IsInteger (.ofInt right) right := Binary64.isInteger_ofInt (by omega)
  cases operation with
  | add =>
      rw [Arithmetic.apply, Arithmetic.exact]
      exact Binary64.toInt32_add leftWhole rightWhole (by omega)
  | subtract =>
      rw [Arithmetic.apply, Arithmetic.exact]
      exact Binary64.toInt32_sub leftWhole rightWhole (by omega)
  | multiply =>
      rw [Arithmetic.apply, Arithmetic.exact]
      exact Binary64.toInt32_mul leftWhole rightWhole
  | divide =>
      rw [Arithmetic.apply, Arithmetic.exact]
      exact Binary64.toInt32_div leftWhole rightWhole (nonzero rfl) (by omega)

theorem natAbs_toInt_le (value : Int32) : value.toInt.natAbs ≤ 2147483648 := by
  have least := value.le_toInt
  have greatest := value.toInt_lt
  omega

/-- Two integers give the exact result, brought into range, unless they are divided by zero. -/
theorem Value.combine?_integer (operation : Arithmetic) (left right : Int32) :
    combine? operation (.integer left) (.integer right) =
      if operation = .divide ∧ right.toInt = 0 then none
      else some (.integer (Int32.ofIntClamp (operation.exact left.toInt right.toInt))) := by
  have reaches : 2147483648 ≤ 2 ^ (Binary64.fractionBits + 1) := by decide
  have zero_iff := (Binary64.isInteger_ofInt
    (Nat.le_trans (natAbs_toInt_le right) reaches)).isZero_iff
  simp only [combine?, toBinary64, zero_iff]
  split
  · rfl
  · rename_i divisible
    rw [toInt32_apply operation (natAbs_toInt_le left) (natAbs_toInt_le right)
      (fun division zero => divisible ⟨division, zero⟩)]

end Luso
