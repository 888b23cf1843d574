import Luso.Number.Written
import Luso.Proofs.Token.Lexeme
import Mathlib.Algebra.Order.Field.Rat
import Mathlib.Tactic.LinearCombination
import Mathlib.Tactic.Ring
import Mathlib.Tactic.NormNum

/-!
# Written numbers are read back

A written number shows digits, perhaps with a decimal point among them, and perhaps a power of ten.
These determine the number, however its digits are arranged; and since a double-precision number is
named by a decimal that is read back as itself, no two nonnegative ones are written alike.
-/

namespace Luso

attribute [local instance] naturalPower

/-! ## Rounding a ratio -/

theorem roundHalfEven_mul_mul_right (numerator denominator : Nat) {factor : Nat}
    (positive : 0 < factor) :
    roundHalfEven (numerator * factor) (denominator * factor) =
      roundHalfEven numerator denominator := by
  have less (a b : Nat) : 2 * (a * factor) < b * factor ↔ 2 * a < b := by
    rw [← Nat.mul_assoc]
    exact Nat.mul_lt_mul_right positive
  have greater (a b : Nat) : b * factor < 2 * (a * factor) ↔ b < 2 * a := by
    rw [← Nat.mul_assoc]
    exact Nat.mul_lt_mul_right positive
  simp only [roundHalfEven, Nat.mul_div_mul_right _ _ positive, Nat.mul_mod_mul_right, less,
    greater]

namespace Binary64

variable {numerator denominator numerator' denominator' : Nat}

/-- Rounding depends on the ratio only. -/
theorem roundRatio_congr (positive : 0 < denominator) (positive' : 0 < denominator')
    (same : numerator * denominator' = numerator' * denominator) :
    roundRatio numerator denominator = roundRatio numerator' denominator' := by
  have whole : numerator / denominator = numerator' / denominator' := by
    rw [← Nat.mul_div_mul_right numerator denominator positive', same, Nat.mul_comm denominator,
      Nat.mul_div_mul_right _ _ positive]
  rw [roundRatio, roundRatio, whole]
  generalize 2 ^ excessBits (numerator' / denominator') = scale
  rw [← roundHalfEven_mul_mul_right numerator _ positive', same,
    ← roundHalfEven_mul_mul_right numerator' (denominator' * scale) positive]
  congr 2
  ring

theorem ofRatio_congr (negative : Bool) (positive : 0 < denominator) (positive' : 0 < denominator')
    (same : numerator * denominator' = numerator' * denominator) :
    ofRatio negative numerator denominator = ofRatio negative numerator' denominator' := by
  simp only [ofRatio, roundRatio_congr positive positive' same]

end Binary64

/-! ## The number that a decimal stands for -/

namespace Decimal

/-- The number that a decimal stands for. -/
def value (decimal : Decimal) : ℚ :=
  decimal.digits * 10 ^ decimal.exponent

theorem cast_ten_pow (count : Nat) : ((10 ^ count : Nat) : ℚ) = 10 ^ (count : ℤ) := by
  rw [zpow_natCast]
  exact Nat.cast_pow 10 count

/-- A decimal is read as the ratio that it stands for. -/
theorem exists_toBinary64_eq (decimal : Decimal) :
    ∃ numerator denominator : Nat, 0 < denominator ∧
      decimal.toBinary64 = Binary64.ofRatio false numerator denominator ∧
      (numerator : ℚ) = decimal.value * Binary64.quantaPerUnit * denominator := by
  rw [toBinary64, Binary64.ofDecimal]
  split
  · rename_i negative
    have exponent_eq : (decimal.exponent.natAbs : ℤ) = -decimal.exponent :=
      Int.ofNat_natAbs_of_nonpos negative.le
    have inverse : (10 : ℚ) ^ decimal.exponent * 10 ^ (-decimal.exponent) = 1 := by
      rw [← zpow_add₀ (by norm_num), add_neg_cancel, zpow_zero]
    refine ⟨_, _, Nat.pow_pos (by decide), rfl, ?_⟩
    rw [Nat.cast_mul, cast_ten_pow, exponent_eq, value]
    linear_combination (-(decimal.digits * Binary64.quantaPerUnit : ℚ)) * inverse
  · rename_i nonnegative
    have exponent_eq : (decimal.exponent.natAbs : ℤ) = decimal.exponent :=
      Int.natAbs_of_nonneg (Int.not_lt.mp nonnegative)
    refine ⟨_, _, Nat.one_pos, rfl, ?_⟩
    rw [Nat.cast_mul, Nat.cast_mul, cast_ten_pow, exponent_eq, value, Nat.cast_one, mul_one]

/-- Decimals that stand for the same number are read alike. -/
theorem toBinary64_congr {first second : Decimal} (same : first.value = second.value) :
    first.toBinary64 = second.toBinary64 := by
  obtain ⟨numerator, denominator, positive, read, ratio⟩ := first.exists_toBinary64_eq
  obtain ⟨numerator', denominator', positive', read', ratio'⟩ := second.exists_toBinary64_eq
  rw [read, read']
  apply Binary64.ofRatio_congr false positive positive'
  have cross : (numerator : ℚ) * denominator' = numerator' * denominator := by
    rw [ratio, ratio', same]
    ring
  exact_mod_cast cross

end Decimal

/-! ## Reading -/

/-- The natural number that a row of digits stands for. -/
def ofDigits (digits : List Char) : Nat :=
  Nat.ofDigitChars 10 digits 0

/-- The integer that digits stand for, perhaps with a minus sign in front. -/
def readInt : List Char → Int
  | '-' :: digits => -ofDigits digits
  | digits => ofDigits digits

theorem ofDigits_append (front back : List Char) :
    ofDigits (front ++ back) = ofDigits front * 10 ^ back.length + ofDigits back := by
  rw [ofDigits, Nat.ofDigitChars_append, Nat.ofDigitChars_eq_ofDigitChars_zero, Nat.mul_comm]
  rfl

theorem ofDigits_zeros (count : Nat) : ofDigits (List.replicate count '0') = 0 := by
  rw [ofDigits, Nat.ofDigitChars_replicate_zero, Nat.mul_zero]

theorem readInt_of_digits {digits : List Char}
    (all : ∀ character ∈ digits, character.isDigit = true) : readInt digits = ofDigits digits := by
  rw [readInt.eq_def]
  split
  · cases all '-' List.mem_cons_self
  · rfl

/-- A written integer is read back. -/
theorem readInt_writeInt (value : Int) : readInt (writeInt value) = value := by
  rw [writeInt]
  split
  · rename_i negative
    rw [readInt, ofDigits, Nat.ofDigitChars_ten_toDigits]
    omega
  · rename_i nonnegative
    rw [readInt_of_digits fun _ => Nat.isDigit_of_mem_toDigits (by decide) (by decide), ofDigits,
      Nat.ofDigitChars_ten_toDigits]
    omega

/-- What stands in front of the first sign of a kind, and what stands behind it.  If there is none,
then everything stands in front of it. -/
def cut (sign : Char) (text : List Char) : List Char × List Char :=
  (text.takeWhile (· != sign), (text.dropWhile (· != sign)).drop 1)

theorem cut_of_not_mem {sign : Char} {text : List Char} (free : sign ∉ text) :
    cut sign text = (text, []) := by
  have all : ∀ character ∈ text, (character != sign) = true :=
    fun character member => bne_iff_ne.mpr (ne_of_mem_of_not_mem member free)
  have front := @takeWhile_run (· != sign) text [] all (by simp)
  have back := @dropWhile_run (· != sign) text [] all (by simp)
  rw [List.append_nil] at front back
  rw [cut, front, back, List.drop_nil]

theorem cut_append_cons {sign : Char} {front : List Char} (free : sign ∉ front)
    (back : List Char) : cut sign (front ++ sign :: back) = (front, back) := by
  have all : ∀ character ∈ front, (character != sign) = true :=
    fun character member => bne_iff_ne.mpr (ne_of_mem_of_not_mem member free)
  have ends : ∀ next ∈ (sign :: back).head?, (next != sign) = false := by simp
  rw [cut, takeWhile_run all ends, dropWhile_run all ends, List.drop_one, List.tail_cons]

theorem not_mem_of_isDigit {sign : Char} (noDigit : sign.isDigit = false) {digits : List Char}
    (all : ∀ character ∈ digits, character.isDigit = true) : sign ∉ digits :=
  fun member => Bool.noConfusion (noDigit.symm.trans (all sign member))

namespace Decimal

/-- The decimal that a text shows: digits, perhaps with a decimal point among them, and perhaps an
exponent behind them. -/
def ofText (text : List Char) : Decimal :=
  let (mantissa, power) := cut 'e' text
  let (whole, fraction) := cut '.' mantissa
  { digits := ofDigits (whole ++ fraction), exponent := readInt power - fraction.length }

variable {digits whole fraction mantissa : List Char}

/-- An exponent multiplies the number in front of it by a power of ten. -/
theorem value_ofText_exponent (noExponent : 'e' ∉ mantissa) (exponent : Int) :
    (ofText (mantissa ++ 'e' :: writeInt exponent)).value =
      (ofText mantissa).value * 10 ^ exponent := by
  rw [ofText, ofText, cut_append_cons noExponent, cut_of_not_mem noExponent]
  simp only [value, readInt_writeInt]
  have split : exponent - (cut '.' mantissa).2.length =
      (readInt [] - (cut '.' mantissa).2.length) + exponent := by
    rw [show readInt [] = 0 from rfl]
    ring
  rw [split, zpow_add₀ (by norm_num), mul_assoc]

/-- The number with these digits, of which so many stand in front of the decimal point. -/
def shown (digits : List Char) (point : Int) : ℚ :=
  ofDigits digits * 10 ^ (point - digits.length)

/-- Digits without a decimal point. -/
theorem value_ofText_digits (all : ∀ character ∈ digits, character.isDigit = true) :
    (ofText digits).value = shown digits digits.length := by
  rw [ofText, cut_of_not_mem (not_mem_of_isDigit rfl all)]
  simp only
  rw [cut_of_not_mem (not_mem_of_isDigit rfl all)]
  simp [value, shown, readInt, ofDigits]

/-- Digits with a decimal point among them. -/
theorem ofText_point (wholeAll : ∀ character ∈ whole, character.isDigit = true)
    (fractionAll : ∀ character ∈ fraction, character.isDigit = true) :
    ofText (whole ++ '.' :: fraction) =
      { digits := ofDigits (whole ++ fraction), exponent := -fraction.length } := by
  have noExponent : 'e' ∉ whole ++ '.' :: fraction := by
    simp [not_mem_of_isDigit (rfl : 'e'.isDigit = false) wholeAll,
      not_mem_of_isDigit (rfl : 'e'.isDigit = false) fractionAll]
  rw [ofText, cut_of_not_mem noExponent]
  simp only
  rw [cut_append_cons (not_mem_of_isDigit rfl wholeAll)]
  simp [readInt, ofDigits]

theorem value_ofText_point (wholeAll : ∀ character ∈ whole, character.isDigit = true)
    (fractionAll : ∀ character ∈ fraction, character.isDigit = true) :
    (ofText (whole ++ '.' :: fraction)).value = shown (whole ++ fraction) whole.length := by
  rw [ofText_point wholeAll fractionAll]
  simp [value, shown]

/-- Zeros behind the digits change nothing. -/
theorem shown_append_zeros (digits : List Char) (count : Nat) (point : Int) :
    shown (digits ++ List.replicate count '0') point = shown digits point := by
  rw [shown, shown, ofDigits_append, ofDigits_zeros, List.length_append, List.length_replicate,
    Nat.add_zero, Nat.cast_mul, cast_ten_pow, mul_assoc, ← zpow_add₀ (by norm_num)]
  congr 2
  push_cast
  ring

/-- Zeros in front of the digits move the decimal point. -/
theorem shown_zeros_append (count : Nat) (digits : List Char) (point : Int) :
    shown (List.replicate count '0' ++ digits) point = shown digits (point - count) := by
  rw [shown, shown, ofDigits_append, ofDigits_zeros, List.length_append, List.length_replicate,
    Nat.zero_mul, Nat.zero_add]
  congr 2
  push_cast
  ring

/-- A power of ten moves the decimal point. -/
theorem shown_mul (digits : List Char) (point exponent : Int) :
    shown digits point * 10 ^ exponent = shown digits (point + exponent) := by
  rw [shown, shown, mul_assoc, ← zpow_add₀ (by norm_num)]
  congr 2
  ring

/-! ## Writing -/

theorem isDigit_zeros (count : Nat) :
    ∀ character ∈ List.replicate count '0', character.isDigit = true := by
  intro character member
  rw [List.eq_of_mem_replicate member]
  rfl

/-- The decimal point stands in front of the digits, with zeros in between. -/
theorem value_pointInFront (all : ∀ character ∈ digits, character.isDigit = true) (count : Nat) :
    (ofText ('0' :: '.' :: (List.replicate count '0' ++ digits))).value = shown digits (-count) := by
  have fractionAll : ∀ character ∈ List.replicate count '0' ++ digits, character.isDigit = true :=
    List.forall_mem_append.mpr ⟨isDigit_zeros count, all⟩
  have read := value_ofText_point (isDigit_zeros 1) fractionAll
  rw [shown_zeros_append, shown_zeros_append] at read
  apply read.trans
  congr 1
  simp

/-- The decimal point stands behind the digits, with zeros in between. -/
theorem value_pointBehind (all : ∀ character ∈ digits, character.isDigit = true) {count : Nat}
    (short : digits.length ≤ count) :
    (ofText (digits ++ List.replicate (count - digits.length) '0' ++ '.' :: ['0'])).value =
      shown digits count := by
  have wholeAll : ∀ character ∈ digits ++ List.replicate (count - digits.length) '0',
      character.isDigit = true :=
    List.forall_mem_append.mpr ⟨all, isDigit_zeros _⟩
  have read := value_ofText_point wholeAll (isDigit_zeros 1)
  rw [shown_append_zeros, shown_append_zeros] at read
  apply read.trans
  congr 1
  rw [List.length_append, List.length_replicate]
  omega

/-- The decimal point stands among the digits. -/
theorem value_pointWithin (all : ∀ character ∈ digits, character.isDigit = true) {count : Nat}
    (long : count ≤ digits.length) :
    (ofText (digits.take count ++ '.' :: digits.drop count)).value = shown digits count := by
  have takeAll : ∀ character ∈ digits.take count, character.isDigit = true :=
    fun character member => all character (List.mem_of_mem_take member)
  have dropAll : ∀ character ∈ digits.drop count, character.isDigit = true :=
    fun character member => all character (List.mem_of_mem_drop member)
  rw [value_ofText_point takeAll dropAll, List.take_append_drop, List.length_take,
    Nat.min_eq_left long]

/-- A number that is written without an exponent. -/
theorem value_writePlain (all : ∀ character ∈ digits, character.isDigit = true) (point : Int) :
    (ofText (writePlain digits point)).value = shown digits point := by
  rw [writePlain]
  split
  · rename_i inFront
    rw [value_pointInFront all]
    congr 1
    omega
  · rename_i behind
    have point_eq : (point.toNat : Int) = point := Int.toNat_of_nonneg (by omega)
    dsimp only
    split
    · rename_i none
      have short := List.drop_eq_nil_iff.mp none
      rw [List.take_of_length_le short, value_pointBehind all short, point_eq]
    · rename_i some
      have long : point.toNat < digits.length := by
        rwa [← Nat.not_le, ← List.drop_eq_nil_iff]
      rw [Nat.sub_eq_zero_of_le long.le, List.replicate_zero, List.append_nil,
        value_pointWithin all long.le, point_eq]

/-- A number that is written with an exponent. -/
theorem value_writeScientific (all : ∀ character ∈ digits, character.isDigit = true)
    (nonempty : digits ≠ []) (exponent : Int) :
    (ofText (writeScientific digits exponent)).value = shown digits (exponent + 1) := by
  obtain ⟨first, rest, rfl⟩ := List.exists_cons_of_ne_nil nonempty
  obtain ⟨firstDigit, restAll⟩ := List.forall_mem_cons.mp all
  have firstAll : ∀ character ∈ [first], character.isDigit = true :=
    List.forall_mem_singleton.mpr firstDigit
  rw [writeScientific]
  cases rest with
  | nil =>
      have read := value_ofText_exponent (not_mem_of_isDigit (rfl : 'e'.isDigit = false) firstAll)
        exponent
      rw [value_ofText_digits firstAll, shown_mul] at read
      exact read.trans (congrArg _ (add_comm _ _))
  | cons second rest =>
      have noExponent : 'e' ∉ [first] ++ '.' :: second :: rest := by
        have inFirst := not_mem_of_isDigit (rfl : 'e'.isDigit = false) firstAll
        have inRest := not_mem_of_isDigit (rfl : 'e'.isDigit = false) restAll
        rw [List.mem_append, not_or]
        exact ⟨inFirst, List.not_mem_cons_of_ne_of_not_mem (by decide) inRest⟩
      have read := value_ofText_exponent noExponent exponent
      rw [value_ofText_point firstAll restAll, shown_mul] at read
      exact read.trans (congrArg _ (add_comm _ _))

/-- The digits of a decimal without the zeros behind the others. -/
def significant (decimal : Decimal) : List Char :=
  Text.trimEndWhile (· == '0') (Nat.toDigits 10 decimal.digits)

/-- Where the decimal point stands in the digits of a decimal. -/
def point (decimal : Decimal) : Int :=
  (Nat.toDigits 10 decimal.digits).length + decimal.exponent

theorem isDigit_significant (decimal : Decimal) :
    ∀ character ∈ decimal.significant, character.isDigit = true :=
  fun _ member =>
    Nat.isDigit_of_mem_toDigits (by decide) (by decide) (Text.mem_of_mem_trimEndWhile member)

/-- The last zeros of the digits do not count. -/
theorem value_eq_shown (decimal : Decimal) :
    decimal.value = shown decimal.significant decimal.point := by
  have split := Text.trimEndWhile_append (· == '0') (Nat.toDigits 10 decimal.digits)
  generalize last_eq : (Nat.toDigits 10 decimal.digits).reverse.takeWhile (· == '0') = last at split
  have zeros : last.reverse = List.replicate last.length '0' := by
    refine List.eq_replicate_iff.mpr ⟨List.length_reverse, fun character member => ?_⟩
    rw [List.mem_reverse, ← last_eq] at member
    have zero := List.mem_takeWhile_imp member
    exact eq_of_beq zero
  rw [zeros] at split
  rw [significant, point, ← shown_append_zeros, split, shown, add_sub_cancel_left, ofDigits,
    Nat.ofDigitChars_ten_toDigits, value]

theorem value_eq_zero_iff (decimal : Decimal) : decimal.value = 0 ↔ decimal.digits = 0 := by
  rw [value, mul_eq_zero, Nat.cast_eq_zero, or_iff_left (zpow_ne_zero _ (by norm_num))]

/-- Only the digits of zero are all dropped. -/
theorem significant_eq_nil_iff (decimal : Decimal) :
    decimal.significant = [] ↔ decimal.digits = 0 := by
  constructor
  · intro nothing
    rw [← value_eq_zero_iff, decimal.value_eq_shown, nothing]
    simp [shown, ofDigits]
  · intro zero
    rw [significant, zero]
    rfl

/-- Zero aside, the place of the decimal point decides how a decimal is written. -/
theorem write_eq (decimal : Decimal) :
    decimal.write =
      if decimal.digits = 0 then ['0', '.', '0']
      else if leastPlainPoint ≤ decimal.point ∧ decimal.point ≤ greatestPlainPoint then
        writePlain decimal.significant decimal.point
      else
        writeScientific decimal.significant (decimal.point - 1) :=
  if_congr decimal.significant_eq_nil_iff rfl rfl

/-- A written decimal is read as the same number. -/
theorem value_ofText_write (decimal : Decimal) : (ofText decimal.write).value = decimal.value := by
  rw [write_eq]
  split
  · rename_i zero
    rw [decimal.value_eq_zero_iff.mpr zero, value_eq_zero_iff]
    rfl
  · rename_i nonzero
    rw [decimal.value_eq_shown]
    split
    · exact value_writePlain decimal.isDigit_significant _
    · have nonempty := mt decimal.significant_eq_nil_iff.mp nonzero
      rw [value_writeScientific decimal.isDigit_significant nonempty, sub_add_cancel]

end Decimal

/-! ## Double-precision numbers -/

namespace Magnitude

/-- What is written for a nonnegative finite number is read as that number. -/
theorem toBinary64_ofText_write (magnitude : Magnitude) :
    (Decimal.ofText magnitude.shortest.write).toBinary64 = .finite false magnitude := by
  rw [Decimal.toBinary64_congr (Decimal.value_ofText_write _), toBinary64_shortest]

/-- No two nonnegative finite numbers are written alike. -/
theorem eq_of_write_eq {first second : Magnitude}
    (same : first.shortest.write = second.shortest.write) : first = second := by
  have read := first.toBinary64_ofText_write
  rw [same, toBinary64_ofText_write] at read
  obtain ⟨-, rfl⟩ := Binary64.finite.inj read
  rfl

end Magnitude
end Luso
