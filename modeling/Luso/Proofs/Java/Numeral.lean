import Luso.Java.Basic

/-!
# The characters of written numbers

Every finite number is written with digits, a decimal point, the sign of an exponent and minus signs.
What is infinite or no number is named by a constant.
-/

namespace Luso

/-- A finite number may be written with this character. -/
def IsNumeral (character : Char) : Prop :=
  character.isDigit = true ∨ character = '.' ∨ character = 'e' ∨ character = '-'

theorem isNumeral_point : IsNumeral '.' := .inr (.inl rfl)

theorem isNumeral_exponent : IsNumeral 'e' := .inr (.inr (.inl rfl))

theorem isNumeral_minus : IsNumeral '-' := .inr (.inr (.inr rfl))

theorem isNumeral_zero : IsNumeral '0' := .inl rfl

theorem isNumeral_toDigits (value : Nat) :
    ∀ character ∈ Nat.toDigits 10 value, IsNumeral character :=
  fun _ member => .inl (Nat.isDigit_of_mem_toDigits (by decide) (by decide) member)

theorem isNumeral_writeInt (value : Int) : ∀ character ∈ writeInt value, IsNumeral character := by
  rw [writeInt]
  split
  · exact List.forall_mem_cons.mpr ⟨isNumeral_minus, isNumeral_toDigits _⟩
  · exact isNumeral_toDigits _

theorem isNumeral_zeros (count : Nat) :
    ∀ character ∈ List.replicate count '0', IsNumeral character := by
  intro character member
  rw [List.eq_of_mem_replicate member]
  exact isNumeral_zero

namespace Decimal

variable {digits : List Char}

theorem isNumeral_writePlain (numerals : ∀ character ∈ digits, IsNumeral character)
    (point : Int) : ∀ character ∈ writePlain digits point, IsNumeral character := by
  rw [writePlain]
  split
  · simp only [List.forall_mem_cons, List.forall_mem_append]
    exact ⟨isNumeral_zero, isNumeral_point, isNumeral_zeros _, numerals⟩
  · simp only [List.forall_mem_cons, List.forall_mem_append]
    refine ⟨⟨fun _ member => numerals _ (List.mem_of_mem_take member), isNumeral_zeros _⟩,
      isNumeral_point, ?_⟩
    split
    · exact List.forall_mem_singleton.mpr isNumeral_zero
    · exact fun _ member => numerals _ (List.mem_of_mem_drop member)

theorem isNumeral_writeScientific (numerals : ∀ character ∈ digits, IsNumeral character)
    (exponent : Int) : ∀ character ∈ writeScientific digits exponent, IsNumeral character := by
  rw [writeScientific]
  simp only [List.forall_mem_cons, List.forall_mem_append]
  refine ⟨⟨fun _ member => numerals _ (List.mem_of_mem_take member), ?_⟩, isNumeral_exponent,
    isNumeral_writeInt _⟩
  split
  · simp
  · exact List.forall_mem_cons.mpr
      ⟨isNumeral_point, fun _ member => numerals _ (List.mem_of_mem_drop member)⟩

theorem isNumeral_write (decimal : Decimal) :
    ∀ character ∈ decimal.write, IsNumeral character := by
  have significant : ∀ character ∈ Text.trimEndWhile (· == '0') (Nat.toDigits 10 decimal.digits),
      IsNumeral character :=
    fun character member => isNumeral_toDigits _ character (Text.mem_of_mem_trimEndWhile member)
  rw [write]
  split
  · simp [isNumeral_zero, isNumeral_point]
  · split
    · exact isNumeral_writePlain significant _
    · exact isNumeral_writeScientific significant _

/-- A decimal is never written like an integer: it shows a decimal point or an exponent. -/
theorem point_or_exponent_mem_write (decimal : Decimal) :
    '.' ∈ decimal.write ∨ 'e' ∈ decimal.write := by
  rw [write]
  split
  · simp
  · split
    · rw [writePlain]
      split <;> simp
    · simp [writeScientific]

/-- A digit stands first. -/
theorem isDigit_head_write (decimal : Decimal) :
    ∃ first rest, decimal.write = first :: rest ∧ first.isDigit = true := by
  have significant : ∀ character ∈ Text.trimEndWhile (· == '0') (Nat.toDigits 10 decimal.digits),
      character.isDigit = true := fun character member =>
    Nat.isDigit_of_mem_toDigits (by decide) (by decide) (Text.mem_of_mem_trimEndWhile member)
  rw [write]
  generalize Text.trimEndWhile (· == '0') (Nat.toDigits 10 decimal.digits) = digits at significant
  cases digits with
  | nil => exact ⟨'0', _, rfl, rfl⟩
  | cons first rest =>
      have firstDigit := significant first List.mem_cons_self
      rw [if_neg (List.cons_ne_nil _ _)]
      split
      · rw [writePlain]
        split
        · exact ⟨'0', _, rfl, rfl⟩
        · rename_i positive
          obtain ⟨before, before_eq⟩ : ∃ before, ((Nat.toDigits 10 decimal.digits).length +
              decimal.exponent).toNat = before + 1 := Nat.exists_eq_succ_of_ne_zero (by omega)
          rw [before_eq]
          exact ⟨first, _, rfl, firstDigit⟩
      · exact ⟨first, _, rfl, firstDigit⟩

end Decimal

namespace Java

theorem writeDouble_finite (negative : Bool) (magnitude : Magnitude) :
    writeDouble (.finite negative magnitude) = (Binary64.finite negative magnitude).write := rfl

theorem writeDouble_infinite (negative : Bool) :
    writeDouble (.infinite negative) = "Double.POSITIVE_INFINITY".toList := rfl

theorem writeDouble_nan : writeDouble .nan = ['N', 'a', 'N'] := rfl

/-- What holds of the characters of all finite numbers and of both constants holds of the characters
of every `double`. -/
theorem forall_mem_writeDouble {property : Char → Prop}
    (numerals : ∀ character, IsNumeral character → property character)
    (infinity : ∀ character ∈ "Double.POSITIVE_INFINITY".toList, property character)
    (noNumber : ∀ character ∈ ['N', 'a', 'N'], property character) (value : Binary64) :
    ∀ character ∈ writeDouble value, property character := by
  cases value with
  | finite negative magnitude =>
      have digits := magnitude.shortest.isNumeral_write
      rw [writeDouble_finite, Binary64.write]
      intro character member
      apply numerals
      split at member
      · exact List.forall_mem_cons.mpr ⟨isNumeral_minus, digits⟩ character member
      · exact digits character member
  | infinite negative =>
      rw [writeDouble_infinite]
      exact infinity
  | nan =>
      rw [writeDouble_nan]
      exact noNumber

end Java
end Luso
