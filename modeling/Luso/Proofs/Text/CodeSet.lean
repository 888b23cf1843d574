import Luso.Text.Blank
import Luso.Text.Extending
import Luso.Text.Letter
import Luso.Text.Printable
import Mathlib.Data.List.Chain

/-!
# Searches in sets of code points

A search ends at the first range that lies beyond the code point.  Nothing is missed, since the ranges of
all tables ascend.
-/

namespace Luso
namespace Text

namespace CodeSet

/-- It is enough that each range ends before the next one begins. -/
theorem Ascending.of_isChain {ranges : CodeSet} (ordered : ∀ range ∈ ranges, range.1 ≤ range.2)
    (chain : ranges.IsChain fun left right => left.2 < right.1) : ranges.Ascending := by
  refine ⟨ordered, ?_⟩
  induction ranges with
  | nil => exact .nil
  | cons first rest induction =>
      obtain ⟨-, restOrdered⟩ := List.forall_mem_cons.mp ordered
      have separate := induction restOrdered chain.tail
      refine List.pairwise_cons.mpr ⟨?_, separate⟩
      cases rest with
      | nil => exact List.forall_mem_nil _
      | cons second others =>
          have next := (List.isChain_cons_cons.mp chain).1
          obtain ⟨secondOrdered, -⟩ := List.forall_mem_cons.mp restOrdered
          refine List.forall_mem_cons.mpr ⟨next, fun range member => ?_⟩
          exact (next.trans_le secondOrdered).trans ((List.pairwise_cons.mp separate).1 range member)

end CodeSet

/-- All tables of characters. -/
def tables : List CodeSet :=
  [letters, extending, unprintable, fillers, whiteSpace]

theorem ascending_of_mem_tables : ∀ table ∈ tables, table.Ascending := by
  simp only [tables, List.forall_mem_cons]
  refine ⟨?_, ?_, ?_, ?_, ?_, List.forall_mem_nil _⟩
  all_goals exact .of_isChain (by decide +kernel) (by decide +kernel)

/-- A search in a table finds exactly the code points in its ranges. -/
theorem contains_iff {table : CodeSet} (member : table ∈ tables) (code : Nat) :
    table.contains code = true ↔ ∃ range ∈ table, range.1 ≤ code ∧ code ≤ range.2 := by
  rw [CodeSet.contains_eq_any table (ascending_of_mem_tables table member)]
  simp

end Text
end Luso
