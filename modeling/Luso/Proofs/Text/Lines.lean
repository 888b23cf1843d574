import Luso.Diagnostic.Report
import Luso.Proofs.Text.Parts
import Luso.Proofs.Token.Seam
import Mathlib.Data.List.DropRight

/-!
# Lines of a source text

A place is counted while a text is passed over, a line is found again by splitting the whole text at its
line feeds.  Both agree: the line with the number of a place is the one in which the place is, and the
column is the number of its characters in front of the place.
-/

namespace Luso

/-- A text is empty or ends with a line feed. -/
def Ended (text : List Char) : Prop :=
  ∀ last ∈ text.getLast?, last = '\n'

/-- The line of a text with a number: all that is in it up to the next line feed, where the lines in
front of it are counted from 1. -/
def IsLine (source : List Char) (number : Nat) (line : List Char) : Prop :=
  ∃ before behind, source = before ++ (line ++ behind) ∧ Ended before ∧
    number = before.count '\n' + 1 ∧ '\n' ∉ line ∧ ∀ next ∈ behind.head?, next = '\n'

/-! ## Splitting at line feeds -/

/-- Splitting finds the line with a number. -/
theorem IsLine.split_eq {source line : List Char} {number : Nat} (isLine : IsLine source number line) :
    (Text.split '\n' source)[number - 1]? = some line := by
  obtain ⟨before, behind, rfl, ended, rfl, noFeed, ends⟩ := isLine
  -- The line is the first part of what is behind the lines in front of it.
  have first : (Text.split '\n' (line ++ behind))[0]? = some line := by
    cases behind with
    | nil => rw [List.append_nil, Text.split_of_not_mem noFeed]; rfl
    | cons next rest =>
        rw [ends next rfl, Text.split_append_cons, Text.split_of_not_mem noFeed]
        rfl
  rw [Nat.add_sub_cancel]
  rcases List.eq_nil_or_concat before with rfl | ⟨lines, last, rfl⟩
  · exact first
  · obtain rfl := ended last (by simp)
    have count_eq : (lines ++ ['\n']).count '\n' = (Text.split '\n' lines).length := by
      rw [List.count_append, Text.length_split, List.count_singleton_self]
    rw [List.concat_eq_append, count_eq, List.append_assoc, List.singleton_append,
      Text.split_append_cons, List.getElem?_append_right (Nat.le_refl _), Nat.sub_self, first]

/-- The line that is looked up is the line of that number without the carriage returns at its end. -/
theorem IsLine.lineAt?_eq {source line : List Char} {number : Nat}
    (isLine : IsLine source number line) :
    lineAt? source number = some (Text.trimEndWhile (· == '\r') line) := by
  have split_eq := isLine.split_eq
  obtain ⟨before, behind, -, -, rfl, -⟩ := isLine
  rw [Nat.add_sub_cancel] at split_eq
  rw [lineAt?, split_eq, Option.map_some]

/-! ## Counting lines and columns -/

/-- Every text consists of whole lines and an opening of the next one. -/
theorem exists_opening (front : List Char) :
    ∃ before opening, front = before ++ opening ∧ Ended before ∧ '\n' ∉ opening := by
  refine ⟨front.rdropWhile (· != '\n'), front.rtakeWhile (· != '\n'),
    List.rdropWhile_append_rtakeWhile.symm, fun last here => ?_, fun inOpening => ?_⟩
  · obtain ⟨nonempty, rfl⟩ := List.mem_getLast?_eq_getLast here
    simpa using List.rdropWhile_last_not (· != '\n') front nonempty
  · simpa using List.mem_rtakeWhile_imp inOpening

namespace Position

variable {text : List Char}

/-- Within a line, only the column changes. -/
theorem advanceOver_of_not_mem (place : Position) (noFeed : '\n' ∉ text) :
    place.advanceOver text = { place with column := place.column + text.length } := by
  induction text generalizing place with
  | nil => rfl
  | cons character rest induction =>
      rw [List.mem_cons, not_or] at noFeed
      rw [advanceOver_cons, advance, if_neg (Ne.symm noFeed.1), induction _ noFeed.2,
        List.length_cons, Nat.add_assoc, Nat.add_comm 1]

theorem column_advanceOver_of_ended (ended : Ended text) : (start.advanceOver text).column = 0 := by
  rcases List.eq_nil_or_concat text with rfl | ⟨lines, last, rfl⟩
  · rfl
  · obtain rfl := ended last (by simp)
    rw [List.concat_eq_append, advanceOver_append]
    rfl

end Position

/-- The line of a place: the place is in it, with as many characters in front of it as the column
says and the rest of the line behind. -/
theorem exists_isLine (front rest : List Char) :
    ∃ line, IsLine (front ++ rest) (Position.start.advanceOver front).line line ∧
      (Position.start.advanceOver front).column ≤ line.length ∧
      line.drop (Position.start.advanceOver front).column = rest.takeWhile (· != '\n') := by
  obtain ⟨before, opening, rfl, ended, noFeed⟩ := exists_opening front
  have column_eq : (Position.start.advanceOver (before ++ opening)).column = opening.length := by
    rw [Position.advanceOver_append, Position.advanceOver_of_not_mem _ noFeed,
      Position.column_advanceOver_of_ended ended, Nat.zero_add]
  refine ⟨opening ++ rest.takeWhile (· != '\n'),
    ⟨before, rest.dropWhile (· != '\n'), ?_, ended, ?_, ?_, fun next here => ?_⟩, ?_, ?_⟩
  · simp [List.takeWhile_append_dropWhile]
  · rw [Position.advanceOver_line, List.count_append, List.count_eq_zero_of_not_mem noFeed,
      Nat.add_zero, Nat.add_comm]
    rfl
  · rw [List.mem_append, not_or]
    exact ⟨noFeed, fun inRest => by simpa using List.mem_takeWhile_imp inRest⟩
  · simpa using dropWhile_head? (· != '\n') rest next here
  · simp [column_eq]
  · rw [column_eq, List.drop_left]

end Luso
