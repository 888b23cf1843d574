import Luso.Proofs.Number.Range
import Luso.Proofs.Text.Ascii

/-!
# Numbers that are written as they were spelled

Digits stand for a number that is written with other digits if there is a zero too many in front of
them.  Around a decimal point there must be digits on both sides, and no zero too many at either end.
Then no other spelling of this sort stands for the same number, and numbers of moderate size are written
so.
-/

namespace Luso

/-! ## Rows of digits -/

section Rows

variable {digits digits' : List Char}

theorem exists_digitChar {character : Char} (digit : character.isDigit = true) :
    ∃ value, value < 10 ∧ character = Nat.digitChar value := by
  obtain ⟨least, greatest⟩ := Text.toNat_of_isDigit digit
  refine ⟨character.toNat - 48, by omega, Char.toNat_inj.mp ?_⟩
  rw [Nat.toNat_digitChar_of_lt_ten (by omega)]
  omega

theorem ofDigits_lt (all : ∀ character ∈ digits, character.isDigit = true) :
    ofDigits digits < 10 ^ digits.length := by
  induction digits with
  | nil => exact Nat.one_pos
  | cons first rest induction =>
      obtain ⟨firstDigit, restAll⟩ := List.forall_mem_cons.mp all
      obtain ⟨value, small, rfl⟩ := exists_digitChar firstDigit
      have scaled := Nat.mul_le_mul_left (10 ^ rest.length) (Nat.le_of_lt_succ small)
      have restSmall := induction restAll
      rw [ofDigits] at restSmall ⊢
      rw [Nat.ofDigitChars_cons_digitChar_of_lt_ten small, Nat.mul_zero, Nat.zero_add,
        Nat.ofDigitChars_eq_ofDigitChars_zero, List.length_cons, Nat.pow_succ]
      omega

/-- Digits behind a positive number are written behind it. -/
theorem toDigits_append {start : Nat} (positive : 0 < start)
    (all : ∀ character ∈ digits, character.isDigit = true) :
    Nat.toDigits 10 start ++ digits = Nat.toDigits 10 (Nat.ofDigitChars 10 digits start) := by
  induction digits generalizing start with
  | nil => simp
  | cons first rest induction =>
      obtain ⟨firstDigit, restAll⟩ := List.forall_mem_cons.mp all
      obtain ⟨value, small, rfl⟩ := exists_digitChar firstDigit
      have step := Nat.toDigits_append_toDigits (by decide : 1 < 10) positive small
      rw [Nat.toDigits_of_lt_base small] at step
      rw [Nat.ofDigitChars_cons_digitChar_of_lt_ten small, ← induction (by omega) restAll, ← step,
        List.append_assoc, List.singleton_append]

/-- Rows of equally many digits stand for different numbers. -/
theorem eq_of_ofDigits_eq (all : ∀ character ∈ digits, character.isDigit = true)
    (all' : ∀ character ∈ digits', character.isDigit = true)
    (length_eq : digits.length = digits'.length) (same : ofDigits digits = ofDigits digits') :
    digits = digits' := by
  -- A digit in front keeps their zeros.
  have front := toDigits_append Nat.one_pos all
  have front' := toDigits_append Nat.one_pos all'
  rw [Nat.ofDigitChars_eq_ofDigitChars_zero] at front front'
  rw [ofDigits, ofDigits] at same
  rw [length_eq, same, ← front'] at front
  exact List.append_cancel_left front

/-- Digits are written as they are exactly if there is no zero too many in front of them. -/
theorem toDigits_ofDigits_iff (all : ∀ character ∈ digits, character.isDigit = true)
    (nonempty : digits ≠ []) :
    Nat.toDigits 10 (ofDigits digits) = digits ↔ digits = ['0'] ∨ digits.head? ≠ some '0' := by
  obtain ⟨first, rest, rfl⟩ := List.exists_cons_of_ne_nil nonempty
  obtain ⟨firstDigit, restAll⟩ := List.forall_mem_cons.mp all
  by_cases zero : first = '0'
  · subst zero
    have value_eq : ofDigits ('0' :: rest) = ofDigits rest := by
      simp [ofDigits, Nat.ofDigitChars_cons]
    rw [value_eq, List.head?_cons, or_iff_left (absurd rfl)]
    constructor
    · intro written
      rcases List.eq_nil_or_concat rest with rfl | ⟨_, _, rest_eq⟩
      · rfl
      · have rest_pos : 0 < rest.length := by
          rw [rest_eq]
          simp
        have short := (Nat.length_toDigits_le_iff (by decide) rest_pos).mpr (ofDigits_lt restAll)
        rw [written, List.length_cons] at short
        omega
    · intro single
      obtain ⟨-, rfl⟩ := List.cons.inj single
      rfl
  · refine iff_of_true ?_ (.inr (by simpa using zero))
    obtain ⟨value, small, rfl⟩ := exists_digitChar firstDigit
    have positive : 0 < value := Nat.pos_of_ne_zero fun none => zero (by rw [none]; rfl)
    have written := toDigits_append positive restAll
    rw [Nat.toDigits_of_lt_base small, List.singleton_append] at written
    rw [ofDigits, Nat.ofDigitChars_cons_digitChar_of_lt_ten small, Nat.mul_zero, Nat.zero_add, written]

end Rows

/-! ## Digits around a decimal point -/

/-- Digits on both sides of a decimal point, with no zero too many at either end. -/
structure IsPlain (whole fraction : List Char) : Prop where
  /-- There are only digits in front of the point. -/
  wholeAll : ∀ character ∈ whole, character.isDigit = true
  /-- There are only digits behind the point. -/
  fractionAll : ∀ character ∈ fraction, character.isDigit = true
  /-- There is a digit in front of the point. -/
  whole_ne_nil : whole ≠ []
  /-- There is a digit behind the point. -/
  fraction_ne_nil : fraction ≠ []
  /-- No zero stands in front of other digits. -/
  front : whole = ['0'] ∨ whole.head? ≠ some '0'
  /-- No zero stands behind other digits. -/
  back : fraction = ['0'] ∨ fraction.getLast? ≠ some '0'

namespace IsPlain

variable {whole fraction whole' fraction' : List Char}

/-- A fraction with more digits does not stand for the same number. -/
theorem unique_of_le (plain : IsPlain whole fraction) (plain' : IsPlain whole' fraction')
    (shorter : fraction.length ≤ fraction'.length)
    (same : ofDigits (whole ++ fraction) * 10 ^ fraction'.length =
      ofDigits (whole' ++ fraction') * 10 ^ fraction.length) :
    whole = whole' ∧ fraction = fraction' := by
  obtain ⟨missing, length_eq⟩ := Nat.exists_eq_add_of_le shorter
  have filledAll : ∀ character ∈ fraction ++ List.replicate missing '0', character.isDigit = true :=
    List.forall_mem_append.mpr ⟨plain.fractionAll, Decimal.isDigit_zeros missing⟩
  have filledLength : (fraction ++ List.replicate missing '0').length = fraction'.length := by
    rw [List.length_append, List.length_replicate, length_eq]
  have filled : ofDigits (whole ++ (fraction ++ List.replicate missing '0')) =
      ofDigits (whole' ++ fraction') := by
    apply Nat.eq_of_mul_eq_mul_right (Nat.pow_pos (n := fraction.length) (by decide : 0 < 10))
    rw [← same, ← List.append_assoc, ofDigits_append (whole ++ fraction), ofDigits_zeros,
      List.length_replicate, Nat.add_zero, Nat.mul_assoc, ← Nat.pow_add, length_eq,
      Nat.add_comm missing]
  have small := ofDigits_lt filledAll
  have small' := ofDigits_lt plain'.fractionAll
  rw [ofDigits_append whole, ofDigits_append whole', filledLength] at filled
  rw [filledLength] at small
  have positive : 0 < 10 ^ fraction'.length := Nat.pow_pos (by decide)
  have whole_eq : ofDigits whole = ofDigits whole' := by
    have quotient := congrArg (· / 10 ^ fraction'.length) filled
    simpa [Nat.mul_comm _ (10 ^ fraction'.length), Nat.mul_add_div positive, Nat.div_eq_of_lt small,
      Nat.div_eq_of_lt small'] using quotient
  rw [whole_eq, Nat.add_left_cancel_iff] at filled
  have fraction_eq := eq_of_ofDigits_eq filledAll plain'.fractionAll filledLength filled
  refine ⟨?_, ?_⟩
  · rw [← (toDigits_ofDigits_iff plain.wholeAll plain.whole_ne_nil).mpr plain.front, whole_eq,
      (toDigits_ofDigits_iff plain'.wholeAll plain'.whole_ne_nil).mpr plain'.front]
  · cases missing with
    | zero => simpa using fraction_eq
    | succ more =>
        have last : fraction'.getLast? = some '0' := by
          rw [← fraction_eq]
          simp [List.replicate_succ']
        have single := plain'.back.resolve_right (absurd last)
        have nonempty := List.length_pos_iff.mpr plain.fraction_ne_nil
        rw [single, List.length_singleton] at length_eq
        omega

/-- No two such spellings stand for the same number. -/
theorem unique (plain : IsPlain whole fraction) (plain' : IsPlain whole' fraction')
    (same : (Decimal.ofText (whole ++ '.' :: fraction)).value =
      (Decimal.ofText (whole' ++ '.' :: fraction')).value) :
    whole = whole' ∧ fraction = fraction' := by
  have cross : ofDigits (whole ++ fraction) * 10 ^ fraction'.length =
      ofDigits (whole' ++ fraction') * 10 ^ fraction.length := by
    rw [Decimal.ofText_point plain.wholeAll plain.fractionAll,
      Decimal.ofText_point plain'.wholeAll plain'.fractionAll, Decimal.value, Decimal.value,
      zpow_neg, zpow_neg, zpow_natCast, zpow_natCast, ← div_eq_mul_inv, ← div_eq_mul_inv,
      div_eq_div_iff (by positivity) (by positivity)] at same
    exact_mod_cast same
  rcases Nat.le_total fraction.length fraction'.length with shorter | shorter
  · exact plain.unique_of_le plain' shorter cross
  · obtain ⟨rfl, rfl⟩ := plain'.unique_of_le plain shorter cross.symm
    exact ⟨rfl, rfl⟩

end IsPlain

/-! ## Numbers of moderate size -/

namespace Decimal

theorem exists_isPlain_writePlain {digits : List Char}
    (all : ∀ character ∈ digits, character.isDigit = true) (nonempty : digits ≠ [])
    (front : digits.head? ≠ some '0') (back : digits.getLast? ≠ some '0') (point : Int) :
    ∃ whole fraction, writePlain digits point = whole ++ '.' :: fraction ∧ IsPlain whole fraction := by
  rw [writePlain]
  split
  · exact ⟨['0'], _, rfl,
      { wholeAll := isDigit_zeros 1
        fractionAll := List.forall_mem_append.mpr ⟨isDigit_zeros _, all⟩
        whole_ne_nil := List.cons_ne_nil _ _
        fraction_ne_nil := List.append_ne_nil_of_right_ne_nil _ nonempty
        front := .inl rfl
        back := .inr (by rwa [List.getLast?_append_of_ne_nil _ nonempty]) }⟩
  · rename_i positive
    obtain ⟨before, point_eq⟩ := Nat.exists_eq_succ_of_ne_zero (by omega : point.toNat ≠ 0)
    obtain ⟨first, rest, rfl⟩ := List.exists_cons_of_ne_nil nonempty
    have wholeAll : ∀ character ∈ (first :: rest).take (before + 1) ++
        List.replicate (before + 1 - (first :: rest).length) '0', character.isDigit = true :=
      List.forall_mem_append.mpr
        ⟨fun character member => all character (List.mem_of_mem_take member), isDigit_zeros _⟩
    rw [point_eq]
    dsimp only
    split
    · exact ⟨_, _, rfl,
        { wholeAll
          fractionAll := isDigit_zeros 1
          whole_ne_nil := by simp
          fraction_ne_nil := List.cons_ne_nil _ _
          front := .inr (by simpa using front)
          back := .inl rfl }⟩
    · rename_i more
      exact ⟨_, _, rfl,
        { wholeAll
          fractionAll := fun character member => all character (List.mem_of_mem_drop member)
          whole_ne_nil := by simp
          fraction_ne_nil := more
          front := .inr (by simpa using front)
          back := .inr (by
            rwa [List.getLast?_drop, if_neg (mt List.drop_eq_nil_iff.mpr more)]) }⟩

theorem head?_significant {decimal : Decimal} (nonzero : decimal.digits ≠ 0) :
    decimal.significant.head? ≠ some '0' := by
  have isDigit : ∀ character ∈ Nat.toDigits 10 decimal.digits, character.isDigit = true :=
    fun _ => Nat.isDigit_of_mem_toDigits (by decide) (by decide)
  have written := (toDigits_ofDigits_iff isDigit Nat.toDigits_ne_nil).mp
    (by rw [ofDigits, Nat.ofDigitChars_ten_toDigits])
  have notZero : Nat.toDigits 10 decimal.digits ≠ ['0'] := by
    intro zero
    have value := @Nat.ofDigitChars_ten_toDigits decimal.digits
    rw [zero] at value
    exact nonzero value.symm
  have split := Text.trimEndWhile_append (· == '0') (Nat.toDigits 10 decimal.digits)
  rw [← significant] at split
  obtain ⟨first, rest, significant_eq⟩ :=
    List.exists_cons_of_ne_nil (mt decimal.significant_eq_nil_iff.mp nonzero)
  have front := written.resolve_left notZero
  rw [← split, significant_eq] at front
  rw [significant_eq]
  simpa using front

theorem getLast?_significant (decimal : Decimal) : decimal.significant.getLast? ≠ some '0' := by
  intro last
  rw [significant, Text.trimEndWhile, List.getLast?_reverse] at last
  have noZero := dropWhile_head? _ _ _ last
  cases noZero

end Decimal

namespace Magnitude

variable {magnitude : Magnitude} {negative : Bool}

/-- A moderate number is written with no zero too many. -/
theorem exists_isPlain_of_isModerate (moderate : (Binary64.finite negative magnitude).IsModerate) :
    ∃ whole fraction, magnitude.shortest.write = whole ++ '.' :: fraction ∧ IsPlain whole fraction := by
  rw [Decimal.write_eq]
  split
  · exact ⟨['0'], ['0'], rfl,
      { wholeAll := Decimal.isDigit_zeros 1
        fractionAll := Decimal.isDigit_zeros 1
        whole_ne_nil := List.cons_ne_nil _ _
        fraction_ne_nil := List.cons_ne_nil _ _
        front := .inl rfl
        back := .inl rfl }⟩
  · rename_i nonzero
    have notZero := mt magnitude.digits_shortest_eq_zero_iff.mpr nonzero
    rw [if_pos ((point_shortest_iff nonzero).mpr ((or_iff_right notZero).mp moderate))]
    exact Decimal.exists_isPlain_writePlain magnitude.shortest.isDigit_significant
      (mt magnitude.shortest.significant_eq_nil_iff.mp nonzero) (Decimal.head?_significant nonzero)
      magnitude.shortest.getLast?_significant _

end Magnitude

end Luso
