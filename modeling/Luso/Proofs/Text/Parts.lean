import Luso.Text.Split
import Mathlib.Data.List.Basic

/-!
# Parts of a text

Splitting and joining are inverse to each other: no part has a separator in it, and parts without
separators are found again when they were joined, or ended, by separators.
-/

namespace Luso
namespace Text

variable {separator : Char}

theorem split_of_not_mem {text : List Char} (free : separator ∉ text) :
    split separator text = [text] := by
  induction text with
  | nil => rfl
  | cons character rest induction =>
      rw [List.mem_cons, not_or] at free
      rw [split, if_neg (Ne.symm free.1), induction free.2]

/-- The separator between two texts separates their parts. -/
theorem split_append_cons (separator : Char) (front behind : List Char) :
    split separator (front ++ separator :: behind) =
      split separator front ++ split separator behind := by
  induction front with
  | nil => simp [split]
  | cons character rest induction =>
      rw [List.cons_append, split, split, induction]
      split
      · rfl
      · cases parts_eq : split separator rest with
        | nil => exact absurd parts_eq (split_ne_nil separator rest)
        | cons part parts => rfl

theorem length_split (separator : Char) (text : List Char) :
    (split separator text).length = text.count separator + 1 := by
  induction text with
  | nil => rfl
  | cons character rest induction =>
      rw [split, List.count_cons]
      split
      · rename_i here
        simp [induction, here]
      · rename_i other
        cases parts_eq : split separator rest with
        | nil => exact absurd parts_eq (split_ne_nil separator rest)
        | cons part parts => simpa [parts_eq, other] using induction

/-- Lines that are ended by separators are found again by splitting, with nothing behind the last. -/
theorem split_flatMap {lines : List (List Char)} (free : ∀ line ∈ lines, separator ∉ line) :
    split separator (lines.flatMap (· ++ [separator])) = lines ++ [[]] := by
  induction lines with
  | nil => rfl
  | cons line rest induction =>
      obtain ⟨here, behind⟩ := List.forall_mem_cons.mp free
      rw [List.flatMap_cons, List.append_assoc, List.singleton_append, split_append_cons,
        split_of_not_mem here, induction behind]
      rfl

theorem not_mem_of_mem_split {text part : List Char} (member : part ∈ split separator text) :
    separator ∉ part := by
  induction text generalizing part with
  | nil =>
      obtain rfl := List.mem_singleton.mp member
      exact List.not_mem_nil
  | cons character rest induction =>
      rw [split] at member
      split at member
      · obtain rfl | member := List.mem_cons.mp member
        · exact List.not_mem_nil
        · exact induction member
      · rename_i other
        split at member
        · obtain rfl := List.mem_singleton.mp member
          simpa using Ne.symm other
        · rename_i first parts parts_eq
          rw [parts_eq, List.forall_mem_cons] at induction
          obtain rfl | member := List.mem_cons.mp member
          · rw [List.mem_cons, not_or]
            exact ⟨Ne.symm other, induction.1⟩
          · exact induction.2 part member

/-- Parts that were joined are found again, if there is one. -/
theorem split_join {parts : List (List Char)} (nonempty : parts ≠ [])
    (free : ∀ part ∈ parts, separator ∉ part) : split separator (join separator parts) = parts := by
  induction parts with
  | nil => exact absurd rfl nonempty
  | cons part rest induction =>
      obtain ⟨here, behind⟩ := List.forall_mem_cons.mp free
      cases rest with
      | nil => exact split_of_not_mem here
      | cons next others =>
          rw [join, split_append_cons, split_of_not_mem here,
            induction (List.cons_ne_nil next others) behind]
          rfl

end Text
end Luso
