/-!
# Splitting and joining

A text is split at every occurrence of a separator, so that `n` separators make `n + 1` parts and
joining the parts gives the text back.
-/

namespace Luso
namespace Text

/-- The parts of a text between the occurrences of a separator. -/
def split (separator : Char) : List Char → List (List Char)
  | [] => [[]]
  | character :: rest =>
      if character = separator then
        [] :: split separator rest
      else
        match split separator rest with
        | [] => [[character]]
        | part :: parts => (character :: part) :: parts

/-- The parts with separators between them. -/
def join (separator : Char) : List (List Char) → List Char
  | [] => []
  | [part] => part
  | part :: next :: parts => part ++ separator :: join separator (next :: parts)

theorem split_ne_nil (separator : Char) (text : List Char) : split separator text ≠ [] := by
  cases text with
  | nil => simp [split]
  | cons character rest =>
      rw [split]
      split
      · simp
      · split <;> simp

/-- Splitting loses nothing. -/
theorem join_split (separator : Char) (text : List Char) :
    join separator (split separator text) = text := by
  induction text with
  | nil => rfl
  | cons character rest ih =>
      have nonempty := split_ne_nil separator rest
      rw [split]
      cases parts_eq : split separator rest with
      | nil => exact absurd parts_eq nonempty
      | cons part parts =>
          rw [parts_eq] at ih
          split
          · rename_i here
            rw [join, ih, here, List.nil_append]
          · cases parts with
            | nil => exact congrArg (character :: ·) ih
            | cons next others => exact congrArg (character :: ·) ih

end Text
end Luso
