/-!
# Sets of code points

A set of characters is given by the ranges of code points that make it up.  The ranges ascend, so
that a search ends at the first one that lies beyond the code point looked for.
-/

namespace Luso
namespace Text

/-- Ascending ranges of code points that do not touch, both ends included. -/
abbrev CodeSet := List (Nat × Nat)

namespace CodeSet

/-- Whether a code point lies in one of the ranges. -/
def contains : CodeSet → Nat → Bool
  | [], _ => false
  | (first, last) :: rest, code =>
      if code < first then false else code ≤ last || contains rest code

/-- The ranges ascend and do not touch. -/
def Ascending (ranges : CodeSet) : Prop :=
  (∀ range ∈ ranges, range.1 ≤ range.2) ∧ ranges.Pairwise (fun left right => left.2 < right.1)

/-- On ascending ranges the search that ends early finds every member. -/
theorem contains_eq_any (ranges : CodeSet) (ascending : ranges.Ascending) (code : Nat) :
    ranges.contains code = ranges.any (fun range => range.1 ≤ code && code ≤ range.2) := by
  obtain ⟨ordered, separate⟩ := ascending
  induction ranges with
  | nil => rfl
  | cons range rest ih =>
      rw [List.pairwise_cons] at separate
      have rest_eq := ih (fun other member => ordered other (List.mem_cons_of_mem _ member))
        separate.2
      have own := ordered range List.mem_cons_self
      simp only [contains, List.any_cons, rest_eq]
      by_cases below : code < range.1
      · have rest_false : rest.any (fun other => other.1 ≤ code && code ≤ other.2) = false := by
          rw [List.any_eq_false]
          intro other member
          have := separate.1 other member
          simp only [Bool.and_eq_true, decide_eq_true_eq, not_and]
          omega
        rw [if_pos below, rest_false]
        simp
        omega
      · rw [if_neg below]
        simp [Nat.le_of_not_lt below]

end CodeSet
end Text
end Luso
