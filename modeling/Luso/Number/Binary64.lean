/-!
# Double-precision numbers

A finite number is a sign and a whole number of quanta, a quantum being the smallest positive
number `2 ^ (-1074)`.  Every operation computes its exact result, as a ratio of two whole numbers
of quanta, and rounds it once to the nearest representable number, ties going to the even
significand.
-/

namespace Luso

/-- Powers of natural numbers are the core library's, whichever other powers are in scope. -/
abbrev naturalPower : Pow Nat Nat := instPowNat

attribute [local instance] naturalPower

/-- Quotient of two natural numbers, rounded to the nearest one, ties to the even one. -/
def roundHalfEven (numerator denominator : Nat) : Nat :=
  let whole := numerator / denominator
  let twice := 2 * (numerator % denominator)
  if twice < denominator then whole
  else if denominator < twice then whole + 1
  else if whole % 2 = 0 then whole
  else whole + 1

theorem le_roundHalfEven (numerator denominator : Nat) :
    numerator / denominator ≤ roundHalfEven numerator denominator := by
  simp only [roundHalfEven]
  split <;> try split
  all_goals try split
  all_goals omega

theorem roundHalfEven_le (numerator denominator : Nat) :
    roundHalfEven numerator denominator ≤ numerator / denominator + 1 := by
  simp only [roundHalfEven]
  split <;> try split
  all_goals try split
  all_goals omega

/-- A quotient that leaves no remainder is not changed by rounding. -/
theorem roundHalfEven_mul_right (value denominator : Nat) (positive : 0 < denominator) :
    roundHalfEven (value * denominator) denominator = value := by
  simp [roundHalfEven, Nat.mul_mod_left, Nat.mul_div_cancel _ positive, positive]

namespace Binary64

/-- Number of binary places of a quantum. -/
def places : Nat := 1074

/-- Number of quanta in one. -/
def quantaPerUnit : Nat := 2 ^ places

/-- Number of binary digits of a significand after its first one. -/
def fractionBits : Nat := 52

/-- Number of binary digits of the exponent in the interchange encoding. -/
def exponentBits : Nat := 11

/-- Number of binary digits of the greatest finite number of quanta. -/
def rangeBits : Nat := 2098

/-- Number of quanta at which the finite range ends. -/
def quantaLimit : Nat := 2 ^ rangeBits

/-- Number of binary digits beyond the 53 that a significand holds. -/
def excessBits (quanta : Nat) : Nat := quanta.log2 - fractionBits

/-- A number of quanta is representable if it is in range and its digits beyond the 53 leading
ones are zeros. -/
def Representable (quanta : Nat) : Prop :=
  quanta < quantaLimit ∧ 2 ^ excessBits quanta ∣ quanta

instance (quanta : Nat) : Decidable (Representable quanta) :=
  inferInstanceAs (Decidable (_ ∧ _))

theorem quantaPerUnit_pos : 0 < quantaPerUnit :=
  Nat.two_pow_pos places

theorem quantaLimit_pos : 0 < quantaLimit :=
  Nat.two_pow_pos rangeBits

theorem representable_zero : Representable 0 :=
  ⟨quantaLimit_pos, Nat.dvd_zero _⟩

/-- The ratio of two natural numbers, rounded to 53 significant binary digits. -/
def roundRatio (numerator denominator : Nat) : Nat :=
  let scale := 2 ^ excessBits (numerator / denominator)
  roundHalfEven numerator (denominator * scale) * scale

theorem lt_two_pow_excessBits (quanta : Nat) :
    quanta < 2 ^ (fractionBits + 1) * 2 ^ excessBits quanta := by
  rw [← Nat.pow_add]
  refine Nat.lt_of_lt_of_le Nat.lt_log2_self (Nat.pow_le_pow_right (by decide) ?_)
  simp only [excessBits]
  omega

/-- A significand of at most 53 digits, shifted, has no digits in excess. -/
theorem two_pow_excessBits_dvd (significand shift : Nat)
    (bound : significand ≤ 2 ^ (fractionBits + 1)) :
    2 ^ excessBits (significand * 2 ^ shift) ∣ significand * 2 ^ shift := by
  by_cases zero : significand = 0
  · simp [zero]
  by_cases top : significand = 2 ^ (fractionBits + 1)
  · rw [top, ← Nat.pow_add, excessBits, Nat.log2_two_pow]
    exact Nat.pow_dvd_pow 2 (by omega)
  · have nonzero : significand * 2 ^ shift ≠ 0 :=
      Nat.mul_ne_zero zero (Nat.ne_of_gt (Nat.two_pow_pos shift))
    have small : significand * 2 ^ shift < 2 ^ (fractionBits + 1 + shift) := by
      rw [Nat.pow_add]
      exact Nat.mul_lt_mul_of_pos_right (by omega) (Nat.two_pow_pos shift)
    have log_lt := (Nat.log2_lt nonzero).mpr small
    refine Nat.dvd_trans (Nat.pow_dvd_pow 2 ?_) (Nat.dvd_mul_left _ _)
    simp only [excessBits]
    omega

/-- Rounding leaves at most 53 significant digits. -/
theorem two_pow_excessBits_dvd_roundRatio (numerator denominator : Nat) :
    2 ^ excessBits (roundRatio numerator denominator) ∣ roundRatio numerator denominator := by
  apply two_pow_excessBits_dvd
  refine Nat.le_trans (roundHalfEven_le _ _) ?_
  rw [← Nat.div_div_eq_div_mul]
  have below := lt_two_pow_excessBits (numerator / denominator)
  exact Nat.div_lt_of_lt_mul (by rwa [Nat.mul_comm])

/-- A representable number of quanta is not changed by rounding. -/
theorem roundRatio_mul_right (quanta denominator : Nat) (positive : 0 < denominator)
    (representable : Representable quanta) :
    roundRatio (quanta * denominator) denominator = quanta := by
  obtain ⟨significand, quanta_eq⟩ := representable.2
  have scale_pos := Nat.two_pow_pos (excessBits quanta)
  rw [roundRatio, Nat.mul_div_cancel _ positive]
  have numerator_eq : quanta * denominator =
      significand * (denominator * 2 ^ excessBits quanta) := by
    rw [Nat.mul_left_comm, Nat.mul_comm denominator, Nat.mul_comm significand, ← quanta_eq]
  rw [numerator_eq, roundHalfEven_mul_right _ _ (Nat.mul_pos positive scale_pos),
    Nat.mul_comm, ← quanta_eq]

end Binary64

/-- The absolute value of a finite double-precision number. -/
structure Magnitude where
  /-- How many times the smallest positive number it is. -/
  quanta : Nat
  /-- It has at most 53 significant binary digits and is in range. -/
  representable : Binary64.Representable quanta
deriving DecidableEq

/-- A double-precision number. -/
inductive Binary64 where
  /-- A finite number; both signs of zero occur. -/
  | finite (negative : Bool) (magnitude : Magnitude)
  /-- An infinity. -/
  | infinite (negative : Bool)
  /-- The result of an operation that has none. -/
  | nan
deriving DecidableEq

namespace Binary64

/-- The zero of the given sign. -/
def zero (negative : Bool) : Binary64 :=
  .finite negative { quanta := 0, representable := representable_zero }

instance : Inhabited Binary64 := ⟨zero false⟩

/-- The number nearest to a ratio of quanta, an infinity if that is out of range. -/
def ofRatio (negative : Bool) (numerator denominator : Nat) : Binary64 :=
  if inRange : roundRatio numerator denominator < quantaLimit then
    .finite negative
      { quanta := roundRatio numerator denominator
        representable := ⟨inRange, two_pow_excessBits_dvd_roundRatio numerator denominator⟩ }
  else
    .infinite negative

/-- The number nearest to `digits * 10 ^ exponent`. -/
def ofDecimal (negative : Bool) (digits : Nat) (exponent : Int) : Binary64 :=
  if exponent < 0 then
    ofRatio negative (digits * quantaPerUnit) (10 ^ exponent.natAbs)
  else
    ofRatio negative (digits * 10 ^ exponent.natAbs * quantaPerUnit) 1

/-- The number nearest to an integer; every 32-bit integer is met exactly. -/
def ofInt (value : Int) : Binary64 :=
  ofRatio (value < 0) (value.natAbs * quantaPerUnit) 1

/-- The number with the given interchange encoding: a sign bit, eleven bits of exponent and
fifty-two bits of fraction. -/
def ofBits (bits : UInt64) : Binary64 :=
  let negative := bits.toNat / 2 ^ (exponentBits + fractionBits) = 1
  let exponent := bits.toNat / 2 ^ fractionBits % 2 ^ exponentBits
  let fraction := bits.toNat % 2 ^ fractionBits
  if exponent = 2 ^ exponentBits - 1 then
    if fraction = 0 then .infinite negative else .nan
  else if exponent = 0 then
    ofRatio negative fraction 1
  else
    ofRatio negative ((2 ^ fractionBits + fraction) * 2 ^ (exponent - 1)) 1

/-- Whether a number is a zero, of either sign. -/
def isZero : Binary64 → Bool
  | .finite _ magnitude => magnitude.quanta == 0
  | _ => false

/-- Equality of numbers: the two zeros are equal, and `nan` is equal to nothing. -/
def equals : Binary64 → Binary64 → Bool
  | .finite negative magnitude, .finite negative' magnitude' =>
      magnitude.quanta == magnitude'.quanta &&
        (negative == negative' || magnitude.quanta == 0)
  | .infinite negative, .infinite negative' => negative == negative'
  | _, _ => false

/-- The number with the opposite sign. -/
def negate : Binary64 → Binary64
  | .finite negative magnitude => .finite (!negative) magnitude
  | .infinite negative => .infinite (!negative)
  | .nan => .nan

/-- Sum. An exact sum of zero is positive unless both summands are negative zeros. -/
def add : Binary64 → Binary64 → Binary64
  | .nan, _ => .nan
  | _, .nan => .nan
  | .infinite negative, .infinite negative' =>
      if negative = negative' then .infinite negative else .nan
  | .infinite negative, .finite _ _ => .infinite negative
  | .finite _ _, .infinite negative => .infinite negative
  | .finite negative magnitude, .finite negative' magnitude' =>
      if negative = negative' then
        ofRatio negative (magnitude.quanta + magnitude'.quanta) 1
      else if magnitude.quanta = magnitude'.quanta then
        zero false
      else if magnitude'.quanta < magnitude.quanta then
        ofRatio negative (magnitude.quanta - magnitude'.quanta) 1
      else
        ofRatio negative' (magnitude'.quanta - magnitude.quanta) 1

/-- Difference. -/
def sub (left right : Binary64) : Binary64 :=
  add left (negate right)

/-- Product. -/
def mul : Binary64 → Binary64 → Binary64
  | .nan, _ => .nan
  | _, .nan => .nan
  | .infinite negative, .infinite negative' => .infinite (negative ^^ negative')
  | .infinite negative, .finite negative' magnitude =>
      if magnitude.quanta = 0 then .nan else .infinite (negative ^^ negative')
  | .finite negative magnitude, .infinite negative' =>
      if magnitude.quanta = 0 then .nan else .infinite (negative ^^ negative')
  | .finite negative magnitude, .finite negative' magnitude' =>
      ofRatio (negative ^^ negative') (magnitude.quanta * magnitude'.quanta) quantaPerUnit

/-- Quotient. -/
def div : Binary64 → Binary64 → Binary64
  | .nan, _ => .nan
  | _, .nan => .nan
  | .infinite _, .infinite _ => .nan
  | .infinite negative, .finite negative' _ => .infinite (negative ^^ negative')
  | .finite negative _, .infinite negative' => zero (negative ^^ negative')
  | .finite negative magnitude, .finite negative' magnitude' =>
      if magnitude'.quanta = 0 then
        if magnitude.quanta = 0 then .nan else .infinite (negative ^^ negative')
      else
        ofRatio (negative ^^ negative') (magnitude.quanta * quantaPerUnit) magnitude'.quanta

/-- The 32-bit integer nearest to a number on the side of zero; numbers out of range become the
least or the greatest one, and `nan` becomes 0. -/
def toInt32 : Binary64 → Int32
  | .finite negative magnitude =>
      let whole : Int := (magnitude.quanta / quantaPerUnit : Nat)
      Int32.ofIntClamp (if negative then -whole else whole)
  | .infinite negative => if negative then Int32.minValue else Int32.maxValue
  | .nan => 0

/-- Rounding a magnitude gives that magnitude back. -/
theorem ofRatio_mul_right (negative : Bool) (magnitude : Magnitude) (denominator : Nat)
    (positive : 0 < denominator) :
    ofRatio negative (magnitude.quanta * denominator) denominator =
      .finite negative magnitude := by
  have rounded := roundRatio_mul_right magnitude.quanta denominator positive
    magnitude.representable
  have inRange : roundRatio (magnitude.quanta * denominator) denominator < quantaLimit := by
    rw [rounded]
    exact magnitude.representable.1
  rw [ofRatio, dif_pos inRange]
  simp only [rounded]

end Binary64
end Luso
