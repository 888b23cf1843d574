import Luso.Number.Binary64

/-!
# Shortest decimals

A double-precision number is named by the decimal with the fewest significant digits that is read
back as that number, and by the nearest one of these.  Every magnitude has an exact decimal with as
many places as a quantum has binary ones; its digits, cut off somewhere, give the two
neighbours of the magnitude among the decimals with so many digits.
-/

namespace Luso

attribute [local instance] naturalPower

/-- The number `digits * 10 ^ exponent`. -/
structure Decimal where
  /-- The significant digits, as a natural number. -/
  digits : Nat
  /-- The power of ten of the last digit. -/
  exponent : Int
deriving DecidableEq

/-- The nonnegative double-precision number nearest to a decimal. -/
def Decimal.toBinary64 (decimal : Decimal) : Binary64 :=
  Binary64.ofDecimal false decimal.digits decimal.exponent

namespace Magnitude

/-- The decimal that is equal to a magnitude. -/
def exactDecimal (magnitude : Magnitude) : Decimal :=
  { digits := magnitude.quanta * 5 ^ Binary64.places, exponent := -Binary64.places }

/-- Whether a decimal is read as the given magnitude. -/
def readsBack (magnitude : Magnitude) (decimal : Decimal) : Bool :=
  decimal.toBinary64 == .finite false magnitude

/-- The two neighbours of a magnitude among the decimals that lack the last `dropped` digits of the
exact one, the nearer one first.  If both are equally near, the greater one is first. -/
def neighbours (magnitude : Magnitude) (dropped : Nat) : List Decimal :=
  let digits := magnitude.exactDecimal.digits
  let unit := 10 ^ dropped
  let exponent := magnitude.exactDecimal.exponent + dropped
  let below : Decimal := { digits := digits / unit, exponent }
  let above : Decimal := { digits := digits / unit + 1, exponent }
  if 2 * (digits % unit) < unit then [below, above] else [above, below]

/-- The nearest decimal without the last `dropped` digits that is read back, if there is one. -/
def nearestWithout (magnitude : Magnitude) (dropped : Nat) : Option Decimal :=
  (magnitude.neighbours dropped).find? magnitude.readsBack

/-- The number of significant digits that always suffices. -/
def sufficientDigits : Nat := 17

/-- The decimal with the fewest digits that is read back. -/
def shortest (magnitude : Magnitude) : Decimal :=
  let length := (Nat.toDigits 10 magnitude.exactDecimal.digits).length
  ((List.range sufficientDigits).findSome?
    (fun count => magnitude.nearestWithout (length - (count + 1)))).getD magnitude.exactDecimal

theorem toBinary64_exactDecimal (magnitude : Magnitude) :
    magnitude.exactDecimal.toBinary64 = .finite false magnitude := by
  have tens : (10 : Nat) ^ Binary64.places = 5 ^ Binary64.places * Binary64.quantaPerUnit := by
    rw [Binary64.quantaPerUnit, ← Nat.mul_pow]
  have negative : -(Binary64.places : Int) < 0 := by decide
  simp only [Decimal.toBinary64, exactDecimal, Binary64.ofDecimal, if_pos negative,
    Int.natAbs_neg, Int.natAbs_natCast, tens, Nat.mul_assoc]
  exact Binary64.ofRatio_mul_right false magnitude _
    (Nat.mul_pos (Nat.pow_pos (by decide)) Binary64.quantaPerUnit_pos)

/-- The chosen decimal is read back. -/
theorem toBinary64_shortest (magnitude : Magnitude) :
    magnitude.shortest.toBinary64 = .finite false magnitude := by
  simp only [shortest]
  cases found : (List.range sufficientDigits).findSome? (fun count =>
      magnitude.nearestWithout
        ((Nat.toDigits 10 magnitude.exactDecimal.digits).length - (count + 1))) with
  | none => exact magnitude.toBinary64_exactDecimal
  | some decimal =>
      obtain ⟨count, -, hit⟩ := List.exists_of_findSome?_eq_some found
      have reads := List.find?_some hit
      simpa [readsBack] using reads

end Magnitude
end Luso
